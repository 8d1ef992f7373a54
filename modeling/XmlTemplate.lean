import XmlTemplate.Proofs.Token.Tiling
import XmlTemplate.Proofs.Token.LongString
import XmlTemplate.Proofs.Token.Places
import XmlTemplate.Proofs.Markup.Marks
import XmlTemplate.Proofs.Render.Completion
import XmlTemplate.Proofs.Render.Interruption
import XmlTemplate.Proofs.Literal.Calm
import XmlTemplate.Proofs.Script.Enclosed
import XmlTemplate.Proofs.Template.Body
import XmlTemplate.Proofs.Template.Limits
import XmlTemplate.Proofs.Template.RoundTrip
import XmlTemplate.Proofs.Template.Permission
import XmlTemplate.Proofs.Template.Cached
import XmlTemplate.Proofs.Render.Inline
import XmlTemplate.Proofs.Template.Lockstep
import XmlTemplate.Proofs.Template.LockstepMarkup
import XmlTemplate.Proofs.Template.Blame
import XmlTemplate.Proofs.Template.Layout
import XmlTemplate.Proofs.Template.EndTags
import XmlTemplate.Proofs.Template.CutShort
import XmlTemplate.Proofs.Template.Truncated
import XmlTemplate.Proofs.Template.Comment
import XmlTemplate.Proofs.Template.BodyTokens
import XmlTemplate.Proofs.Template.BodyMargin
import XmlTemplate.Proofs.Template.LineEnds
import XmlTemplate.Proofs.Template.Scripts
import XmlTemplate.Proofs.Template.EmptyScript
import XmlTemplate.Proofs.Render.ScopeFlow
import XmlTemplate.Proofs.Render.InStep
import XmlTemplate.Proofs.Template.TextLiteral
import XmlTemplate.Proofs.Template.WrittenName
import XmlTemplate.Proofs.Render.Batch
import XmlTemplate.Proofs.Markup.Escaping
import XmlTemplate.Proofs.Template.NameRun
import XmlTemplate.Proofs.Token.Words
import XmlTemplate.Proofs.Template.Uncommented
import XmlTemplate.Proofs.Template.MissingGroup
