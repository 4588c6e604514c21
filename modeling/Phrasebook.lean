import Phrasebook.Proofs.Command.ErrorLine
import Phrasebook.Proofs.Command.Logging
import Phrasebook.Proofs.Command.Quoting
import Phrasebook.Proofs.Command.Verdict
import Phrasebook.Proofs.Literal.Notation
import Phrasebook.Proofs.Log.Record
import Phrasebook.Proofs.Rule.Fault
import Phrasebook.Proofs.Rule.Language
import Phrasebook.Proofs.SelfTest.Golden
import Phrasebook.Proofs.Session.Caret
import Phrasebook.Proofs.Session.Conversation
import Phrasebook.Proofs.Settings.Snapshot
import Phrasebook.Proofs.Settings.Timeout
import Phrasebook.Proofs.Subprocess.Settlement
import Phrasebook.Proofs.Subprocess.Truncation
import Phrasebook.Proofs.Translation.Numbers
