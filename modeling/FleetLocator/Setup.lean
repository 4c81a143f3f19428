import FleetLocator.Peer.Backend
import FleetLocator.Rest.Api
import FleetLocator.RowStore.Database
import FleetLocator.Settings

/-! # A service as its settings want it -/
namespace FleetLocator

open Service (Backend Fault)

/-- A web interface and the state of the backend behind it. -/
structure Setup where
  Store : Type
  api : Rest.Api Store
  store : Store

namespace Setup

def around {σ : Type} (settings : Settings) (backend : Backend σ) (store : σ) : Setup where
  Store := σ
  api := ⟨⟨backend, settings.backendTimeout.toNat, settings.maxLimit⟩, settings.defaultLimit⟩
  store := store

/-- A peer on the network, or the database with the name in the settings. -/
def ofSettings {σ : Type} (network : Peer.Network σ) (start : σ) (volume : RowStore.Volume)
    (settings : Settings) : Except Fault Setup :=
  match settings.source with
  | .remote => (Peer.Endpoint.ofText settings.backendUrl).map fun endpoint =>
      around settings (Peer.backend endpoint network) start
  | .rows => (RowStore.Database.ofName volume settings.databasePath).map fun db => around settings RowStore.backend db

/-- The settings in a file of assignments and an environment. -/
def readSettings (file : String) (env : Settings.Environment) : Except Fault Settings :=
  (Settings.ofEnvironment (Settings.File.load file env)).mapError fun e => .internal (.setting e)

end Setup

end FleetLocator
