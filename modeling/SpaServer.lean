import SpaServer.Assets.Find
import SpaServer.Assets.Lookup
import SpaServer.Assets.Mount
import SpaServer.Binary64
import SpaServer.Bindings
import SpaServer.Bundle
import SpaServer.EnvFile.Basic
import SpaServer.EnvFile.Progress
import SpaServer.EnvFile.Reference
import SpaServer.EnvFile.Statement
import SpaServer.Files.Change
import SpaServer.Files.Link
import SpaServer.Files.Node
import SpaServer.Files.Place
import SpaServer.Files.Stat
import SpaServer.Http.CachePolicy
import SpaServer.Http.Delivery
import SpaServer.Http.Failure
import SpaServer.Http.Header
import SpaServer.Http.MediaType
import SpaServer.Http.Range
import SpaServer.Http.Request
import SpaServer.Http.Response
import SpaServer.Main
import SpaServer.Server.App
import SpaServer.Server.Log
import SpaServer.Server.Session
import SpaServer.Server.Startup
import SpaServer.Settings.Basic
import SpaServer.Settings.LogLevel
import SpaServer.Settings.Value
import SpaServer.Text.Basic
import SpaServer.Text.Blank
import SpaServer.Text.Digit
import SpaServer.Text.Lowercase
import SpaServer.Text.Numeral
import SpaServer.Text.Printable
import SpaServer.Text.Quoted
import SpaServer.Text.Utf8
import SpaServer.Url.Address
import SpaServer.Url.Authority
import SpaServer.Url.Basic
import SpaServer.Url.Percent
import SpaServer.Proofs.Assets.Confinement
import SpaServer.Proofs.Assets.LinkFree
import SpaServer.Proofs.Assets.Mounts
import SpaServer.Proofs.Assets.Moves
import SpaServer.Proofs.Assets.Names
import SpaServer.Proofs.Assets.Navigation
import SpaServer.Proofs.Assets.Root
import SpaServer.Proofs.Assets.Spelling
import SpaServer.Proofs.Bindings
import SpaServer.Proofs.EnvFile.Appending
import SpaServer.Proofs.EnvFile.Quoting
import SpaServer.Proofs.EnvFile.References
import SpaServer.Proofs.EnvFile.Replacement
import SpaServer.Proofs.EnvFile.Templates
import SpaServer.Proofs.Files.LinkFree
import SpaServer.Proofs.Files.Provenance
import SpaServer.Proofs.Files.Reach
import SpaServer.Proofs.Files.Resolution
import SpaServer.Proofs.Files.Walk
import SpaServer.Proofs.Http.Addressing
import SpaServer.Proofs.Http.CachePolicy
import SpaServer.Proofs.Http.Framing
import SpaServer.Proofs.Http.Headers
import SpaServer.Proofs.Http.Joining
import SpaServer.Proofs.Http.MediaType
import SpaServer.Proofs.Http.Parts
import SpaServer.Proofs.Http.Range
import SpaServer.Proofs.Http.Sending
import SpaServer.Proofs.Server.Agreement
import SpaServer.Proofs.Server.Bundle
import SpaServer.Proofs.Server.Conditional
import SpaServer.Proofs.Server.Confinement
import SpaServer.Proofs.Server.Course
import SpaServer.Proofs.Server.Dotfiles
import SpaServer.Proofs.Server.EntryDocument
import SpaServer.Proofs.Server.Failures
import SpaServer.Proofs.Server.Framing
import SpaServer.Proofs.Server.Freshness
import SpaServer.Proofs.Server.Head
import SpaServer.Proofs.Server.Indifference
import SpaServer.Proofs.Server.Isolation
import SpaServer.Proofs.Server.Launching
import SpaServer.Proofs.Server.Missing
import SpaServer.Proofs.Server.Mounts
import SpaServer.Proofs.Server.PartialContent
import SpaServer.Proofs.Server.Reachability
import SpaServer.Proofs.Server.Redirects
import SpaServer.Proofs.Server.Rootless
import SpaServer.Proofs.Server.Routing
import SpaServer.Proofs.Server.Snapshot
import SpaServer.Proofs.Server.Startup
import SpaServer.Proofs.Server.Targets
import SpaServer.Proofs.Settings.Appended
import SpaServer.Proofs.Settings.Doors
import SpaServer.Proofs.Settings.Fields
import SpaServer.Proofs.Settings.Outcome
import SpaServer.Proofs.Settings.Precedence
import SpaServer.Proofs.Settings.Quoted
import SpaServer.Proofs.Settings.Reading
import SpaServer.Proofs.Text.Cutting
import SpaServer.Proofs.Text.Decoding
import SpaServer.Proofs.Text.Lenient
import SpaServer.Proofs.Text.Literal
import SpaServer.Proofs.Text.Lowercase
import SpaServer.Proofs.Text.Numeral
import SpaServer.Proofs.Text.Trimming
import SpaServer.Proofs.Text.Utf8
import SpaServer.Proofs.Url.Authority
import SpaServer.Proofs.Url.Reading
import SpaServer.Proofs.Url.Unescaping
