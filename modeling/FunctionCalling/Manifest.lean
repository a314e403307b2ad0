/-
  Plugins declared in a file.

  A manifest lists plugins and the functions they have, without anything to run.  The registry
  made of it holds declared functions: they can be offered and looked up, and calling one gives
  a complaint.  Reading a manifest ignores fields it does not know.
-/
import FunctionCalling.Json.Shape.Text
import FunctionCalling.Registry

namespace FunctionCalling

open FunctionCalling.Json (Shape)

/-- A plugin that is declared. -/
structure PluginEntry where
  name : String
  description : String
  functions : List Metadata
deriving DecidableEq, Repr

/-- The plugins that are declared. -/
structure Manifest where
  plugins : List PluginEntry
deriving DecidableEq, Repr

/-- How a declared plugin is written. -/
def PluginEntry.shape : Shape PluginEntry :=
  .record "PluginEntry" .ignoreUnknown
    (.required "name" .text <|
      .withDefault "description" .text "" <|
      .withDefault "functions" (.list Metadata.shape) [] <|
      .done)
    (fun (name, description, functions, ()) => ⟨name, description, functions⟩)
    (fun e => (e.name, e.description, e.functions, ()))

/-- A declared plugin as a host supplies one. -/
def PluginEntry.toDraft (e : PluginEntry) : PluginDraft :=
  ⟨e.name, e.description, e.functions.map Draft.declared⟩

namespace Manifest

/-- A manifest without plugins. -/
def empty : Manifest :=
  ⟨[]⟩

/-- How a manifest is written. -/
def shape : Shape Manifest :=
  .record "PluginManifest" .ignoreUnknown
    (.withDefault "plugins" (.list PluginEntry.shape) [] <| .done)
    (fun (plugins, ()) => ⟨plugins⟩)
    (fun m => (m.plugins, ()))

/-- Reads a manifest. -/
def ofText (text : String) : Except Error Manifest :=
  (shape.parse text).mapError .json

/-- The registry of what a manifest declares, in its order; the first fault is reported. -/
def toRegistry (m : Manifest) : Except Error Registry :=
  Registry.ofDrafts (m.plugins.map PluginEntry.toDraft)

end Manifest

end FunctionCalling
