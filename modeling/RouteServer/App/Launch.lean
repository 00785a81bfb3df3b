import RouteServer.App.Builder
import RouteServer.Config.Settings
import RouteServer.Net.Network
import RouteServer.View.Directory

/-
  **Launching an application** — its settings make it a service, and the network lets it listen.
-/

namespace RouteServer

namespace App

/-- The dispatcher with the templates of the template directory. -/
def fileDispatcher (a : App) (texts : View.ErrorTexts) (s : Settings) (files : FileTree) :
    Dispatcher :=
  a.dispatcher (.ofLibrary texts (.ofDirectory files s.templateDir))

def service (a : App) (texts : View.ErrorTexts) (s : Settings) (files : FileTree) : Service :=
  ⟨a.fileDispatcher texts s files, files, s.staticDir⟩

end App

structure LaunchError where
  address : String
  cause : Net.BindError
  deriving DecidableEq, Repr

def LaunchError.message (e : LaunchError) : String := "failed to bind " ++ e.address

def Settings.listen (s : Settings) (n : Net.Network) : Except LaunchError Net.IpAddress :=
  (n.bind s.address).mapError fun e => ⟨s.address, e⟩

end RouteServer
