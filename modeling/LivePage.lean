import LivePage.EventStream.Reader
import LivePage.Binary64.Decimal
import LivePage.LiveReload.Script
import LivePage.LiveReload.Run
import LivePage.Text.Alphanumeric
import LivePage.Text.Quoted
import LivePage.Text.Blank
import LivePage.Page.Components
import LivePage.Page.Options
import LivePage.Http.EventSource
import LivePage.Http.Reply
import LivePage.Toml.Tree
import LivePage.Toml.Quoted
import LivePage.Toml.Syntax
import LivePage.Toml.Document
import LivePage.Config.Reading
import LivePage.Config.Load
import LivePage.CommandLine.Invocation
import LivePage.Process.Execution
import LivePage.Process.Programs
import LivePage.CommandLine.Program
import LivePage.Main
import LivePage.EventStream.Whole
import LivePage.EventStream.Writer
import LivePage.Proofs.EventStream.Chunking
import LivePage.Proofs.LiveReload.ScriptedRuns
import LivePage.Proofs.LiveReload.Lifetime
import LivePage.Proofs.Http.Resumption
import LivePage.Proofs.Http.SendableIds
import LivePage.Proofs.EventStream.Boundaries
import LivePage.Proofs.Text.Encoding
import LivePage.Proofs.EventStream.RoundTrip
import LivePage.Proofs.Page.Appearance
import LivePage.Proofs.Page.Independence
import LivePage.Proofs.CommandLine.Rebuilds
import LivePage.Proofs.Config.PageAttributes
import LivePage.Proofs.EventStream.Interruptions
import LivePage.Proofs.LiveReload.Attempts
import LivePage.Proofs.LiveReload.RunLength
import LivePage.Proofs.Page.ThemeHistory
import LivePage.Proofs.Page.StoredWidth
import LivePage.Proofs.Config.BareReferences
import LivePage.Proofs.CommandLine.StartTag
import LivePage.Proofs.Config.Loading
import LivePage.Proofs.Http.Bodies
import LivePage.Proofs.Http.Refusals
import LivePage.Proofs.EventStream.InertLines
import LivePage.Proofs.EventStream.Promptness
import LivePage.Proofs.LiveReload.Backoff
import LivePage.Proofs.Http.SharedId
import LivePage.Proofs.LiveReload.AttemptCount
import LivePage.Proofs.Config.Discovery
