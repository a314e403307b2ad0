/-
  Tools: functions as they travel between the host and a model.

  A `ToolDefinition` offers a function to a model; a `ToolCall` is the model's answer.  The name
  in a call is whatever the model wrote, and the arguments are a text that need not be JSON.
-/
import FunctionCalling.Json.Shape

namespace FunctionCalling

open FunctionCalling.Json (Shape)

/-- The kind of a tool; functions are the only kind. -/
inductive ToolKind where
  | function
deriving DecidableEq, Repr

/-- A function as it is offered. -/
structure FunctionDefinition where
  name : String
  description : String
  parameters : Json
deriving DecidableEq, Repr

/-- A tool as it is offered. -/
structure ToolDefinition where
  kind : ToolKind
  function : FunctionDefinition
deriving DecidableEq, Repr

/-- What a model calls and with what. -/
structure CalledFunction where
  name : String
  arguments : String
deriving DecidableEq, Repr

/-- A call that a model asks for. -/
structure ToolCall where
  id : String
  kind : ToolKind
  function : CalledFunction
deriving DecidableEq, Repr

/-- A tool that is a function. -/
def ToolDefinition.ofFunction (name description : String) (parameters : Json) : ToolDefinition :=
  ⟨.function, ⟨name, description, parameters⟩⟩

/-- A call of a function. -/
def ToolCall.ofFunction (id name arguments : String) : ToolCall :=
  ⟨id, .function, ⟨name, arguments⟩⟩

/-! ## How they are written -/

/-- The kind of a tool, as a word. -/
def ToolKind.shape : Shape ToolKind :=
  .choice [.function] fun
    | .function => "function"

/-- A function as it is offered. -/
def FunctionDefinition.shape : Shape FunctionDefinition :=
  .record "FunctionDef" .ignoreUnknown
    (.required "name" .text <|
      .required "description" .text <|
      .required "parameters" .any <|
      .done)
    (fun (name, description, parameters, ()) => ⟨name, description, parameters⟩)
    (fun d => (d.name, d.description, d.parameters, ()))

/-- A tool as it is offered. -/
def ToolDefinition.shape : Shape ToolDefinition :=
  .record "ToolDef" .ignoreUnknown
    (.required "type" ToolKind.shape <|
      .required "function" FunctionDefinition.shape <|
      .done)
    (fun (kind, function, ()) => ⟨kind, function⟩)
    (fun d => (d.kind, d.function, ()))

/-- What a model calls and with what. -/
def CalledFunction.shape : Shape CalledFunction :=
  .record "FunctionCallData" .ignoreUnknown
    (.required "name" .text <|
      .required "arguments" .text <|
      .done)
    (fun (name, arguments, ()) => ⟨name, arguments⟩)
    (fun c => (c.name, c.arguments, ()))

/-- A call that a model asks for. -/
def ToolCall.shape : Shape ToolCall :=
  .record "ToolCall" .ignoreUnknown
    (.required "id" .text <|
      .required "type" ToolKind.shape <|
      .required "function" CalledFunction.shape <|
      .done)
    (fun (id, kind, function, ()) => ⟨id, kind, function⟩)
    (fun c => (c.id, c.kind, c.function, ()))

end FunctionCalling
