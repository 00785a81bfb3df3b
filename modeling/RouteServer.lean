import RouteServer.Text.Blank
import RouteServer.Text.Split
import RouteServer.Text.Alphanumeric
import RouteServer.Text.LowerCase
import RouteServer.Text.Utf8
import RouteServer.Number.Binary64
import RouteServer.Number.Shortest
import RouteServer.Json.Parser
import RouteServer.Json.Printer
import RouteServer.Route.Template
import RouteServer.Http.Method
import RouteServer.Route.Match
import RouteServer.Route.Pattern
import RouteServer.Route.Resolver
import RouteServer.Http.Body
import RouteServer.Http.Cookie
import RouteServer.Http.Response
import RouteServer.Http.Target
import RouteServer.Action.Dispatcher
import RouteServer.App.Builder
import RouteServer.App.Service
import RouteServer.Text.Visible
import RouteServer.View.Template
import RouteServer.View.Directory
import RouteServer.Yaml.Block
import RouteServer.Yaml.Document
import RouteServer.Config.Environment
import RouteServer.Config.Load
import RouteServer.Log.Config
import RouteServer.Log.Logger
import RouteServer.App.Launch
import RouteServer.Command.Line
import RouteServer.Command.Run
import RouteServer.Demo.Files
import RouteServer.Main
import RouteServer.Proofs.Route.Backtracking
import RouteServer.Proofs.Route.Regex
import RouteServer.Proofs.Route.Reachability
import RouteServer.Proofs.Route.Matching
import RouteServer.Proofs.Route.TemplateText
import RouteServer.Proofs.Route.RoundTrip
import RouteServer.Proofs.Route.History
import RouteServer.Proofs.Route.Resolution
import RouteServer.Proofs.Route.Shape
import RouteServer.Proofs.App.Declarations
import RouteServer.Proofs.App.Handling
import RouteServer.Proofs.Route.Prefix
import RouteServer.Proofs.App.Mounting
import RouteServer.Proofs.Text.Utf8
import RouteServer.Proofs.Http.Fields
import RouteServer.Proofs.Http.HeaderLines
import RouteServer.Proofs.Http.Parameters
import RouteServer.Proofs.Http.Forms
import RouteServer.Proofs.Files.Confinement
import RouteServer.Proofs.Action.Parameters
import RouteServer.Proofs.App.Missing
import RouteServer.Proofs.App.Building
import RouteServer.Proofs.Demo.Users
import RouteServer.Proofs.Config.Layers
import RouteServer.Proofs.Http.Urlencoded
import RouteServer.Proofs.Net.Requests
import RouteServer.Proofs.Route.TrailingSlash
import RouteServer.Proofs.Http.Truncation
import RouteServer.Proofs.Http.FieldNames
import RouteServer.Proofs.Json.RoundTrip
import RouteServer.Proofs.Http.Bodies
import RouteServer.Proofs.Http.Cookies
import RouteServer.Proofs.Http.MediaTypes
import RouteServer.Proofs.Action.Outcomes
import RouteServer.Proofs.Net.Headers
import RouteServer.Proofs.Json.Grammar
import RouteServer.Proofs.Http.Payloads
import RouteServer.Proofs.View.Reading
import RouteServer.Proofs.View.Rendering
import RouteServer.Proofs.Demo.NotFoundPage
import RouteServer.Proofs.Route.Shadowing
import RouteServer.Proofs.Action.Access
import RouteServer.Proofs.Config.StackSizes
import RouteServer.Proofs.Route.Listing
import RouteServer.Proofs.App.Methods
import RouteServer.Proofs.App.Normalization
import RouteServer.Proofs.App.EmptySegments
import RouteServer.Proofs.Net.ContentTypes
