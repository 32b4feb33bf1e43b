import Dialogue.Main
import Dialogue.Proofs.Console.Lines
import Dialogue.Proofs.Console.Order
import Dialogue.Proofs.Console.Replies
import Dialogue.Proofs.Console.Reporting
import Dialogue.Proofs.Console.Spelling
import Dialogue.Proofs.Console.Transcript
import Dialogue.Proofs.Expression.Matching
import Dialogue.Proofs.Markup.Brackets
import Dialogue.Proofs.Markup.Bytes
import Dialogue.Proofs.Markup.CharacterData
import Dialogue.Proofs.Markup.Chunks
import Dialogue.Proofs.Markup.Nesting
import Dialogue.Proofs.Markup.NormalForm
import Dialogue.Proofs.Markup.ReadTags
import Dialogue.Proofs.Markup.ReadTrees
import Dialogue.Proofs.Markup.Readings
import Dialogue.Proofs.Markup.Rewriting
import Dialogue.Proofs.Markup.RoundTrip
import Dialogue.Proofs.Markup.Tags
import Dialogue.Proofs.Markup.Truncation
import Dialogue.Proofs.Pattern.Language
import Dialogue.Proofs.Pattern.Wholeness
import Dialogue.Proofs.Rules.History
import Dialogue.Proofs.Rules.Loading
import Dialogue.Proofs.Rules.Reloading
import Dialogue.Proofs.Session.Account
import Dialogue.Proofs.Session.Answering
import Dialogue.Proofs.Session.Cache
import Dialogue.Proofs.Session.CatchAll
import Dialogue.Proofs.Session.Choice
import Dialogue.Proofs.Session.Course
import Dialogue.Proofs.Session.Cutoff
import Dialogue.Proofs.Session.Descent
import Dialogue.Proofs.Session.FirstMatch
import Dialogue.Proofs.Session.Growth
import Dialogue.Proofs.Session.Inert
import Dialogue.Proofs.Session.Isolation
import Dialogue.Proofs.Session.Items
import Dialogue.Proofs.Session.Lowercase
import Dialogue.Proofs.Session.Overwriting
import Dialogue.Proofs.Session.PatternContent
import Dialogue.Proofs.Session.Reports
import Dialogue.Proofs.Session.Respelling
import Dialogue.Proofs.Session.Srai
import Dialogue.Proofs.Session.Tidying
import Dialogue.Proofs.Text.Trimming
import Dialogue.Session.Calls
