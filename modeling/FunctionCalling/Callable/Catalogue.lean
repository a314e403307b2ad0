/-
  Ready-made functions.

  1. Argument types, each with the form in which its values are read and the declaration of its
     schema: a pair of integers, a text, a place and time to report on, and a few more that have
     a schema only.
  2. Handlers over these types: fixed replies, an echo, a sum, a report, a pause.
-/
import FunctionCalling.Callable
import FunctionCalling.Json.Printer
import FunctionCalling.Schema.Declaration

namespace FunctionCalling.Catalogue

open FunctionCalling.Json (Shape)
open FunctionCalling.Schema (Declarations Form)

/-! ## Argument types -/

/-- Two integers. -/
structure AddArgs where
  a : Int64
  b : Int64
deriving DecidableEq

/-- A text. -/
structure TextArgs where
  text : String
deriving DecidableEq

/-- A unit of temperature. -/
inductive Scale where
  | celsius
  | fahrenheit
deriving DecidableEq

/-- Where and when the weather is asked for. -/
structure WeatherArgs where
  city : String
  date : Option String
  days : UInt8
  scale : Scale
deriving DecidableEq

/-- The word for a unit in arguments. -/
def Scale.word : Scale → String
  | celsius => "celsius"
  | fahrenheit => "fahrenheit"

/-- The name of a unit in reports. -/
def Scale.title : Scale → String
  | celsius => "Celsius"
  | fahrenheit => "Fahrenheit"

/-- How two integers are written. -/
def AddArgs.shape : Shape AddArgs :=
  .record "AddArgs" .ignoreUnknown
    (.required "a" .integer <| .required "b" .integer <| .done)
    (fun (a, b, ()) => ⟨a, b⟩)
    (fun args => (args.a, args.b, ()))

/-- How a text is written. -/
def TextArgs.shape : Shape TextArgs :=
  .record "TextArgs" .ignoreUnknown
    (.required "text" .text <| .done)
    (fun (text, ()) => ⟨text⟩)
    (fun args => (args.text, ()))

/-- How a unit is written. -/
def Scale.shape : Shape Scale :=
  .choice [.celsius, .fahrenheit] Scale.word

/-- How a question about the weather is written; nothing else may be said. -/
def WeatherArgs.shape : Shape WeatherArgs :=
  .record "WeatherArgs" .denyUnknown
    (.required "city" .text <|
      .withDefault "date" (.optional .text) none <|
      .withDefault "days" .byte 0 <|
      .withDefault "unit" Scale.shape .celsius <|
      .done)
    (fun (city, date, days, scale, ()) => ⟨city, date, days, scale⟩)
    (fun args => (args.city, args.date, args.days, args.scale, ()))

/-- The declared types. -/
def declarations : Declarations :=
  [("AddArgs", .record none false
      [{ name := "a", form := .integer }, { name := "b", form := .integer }]),
   ("TextArgs", .record none false [{ name := "text", form := .text }]),
   ("Unit", .choice [Scale.word .celsius, Scale.word .fahrenheit]),
   ("WeatherArgs", .record (some "Where and when.") true
      [{ name := "city", description := some "City name.", form := .text },
       { name := "date", form := .optional .text, required := false, default := some .null },
       { name := "days", form := .byte, required := false,
         default := some (.number (.integer 0)) },
       { name := "unit", form := .named "Unit", required := false }]),
   ("Point", .record none false
      [{ name := "x", form := .real }, { name := "y", form := .real }]),
   ("NestedArgs", .record none false
      [{ name := "points", form := .list (.named "Point") },
       { name := "labels", form := .table .flag },
       { name := "parent", form := .optional (.named "NestedArgs"), required := false }]),
   ("EmptyArgs", .record none false []),
   ("UnitArgs", .nothing)]

/-- The schema of a form that may name the declared types. -/
def schemaOf (form : Form) : Json :=
  Schema.schemaOf declarations form

/-! ## Handlers -/

/-- Always the same reply, whatever the arguments. -/
def fixed (text : String) : Handler :=
  .ofShape .any fun _ => .reply text

/-- The arguments, as compact JSON. -/
def echo : Handler :=
  .ofShape .any fun v => .reply v.compact

/-- The text among the arguments. -/
def givenText : Handler :=
  .ofShape TextArgs.shape fun args => .reply args.text

/-- The exact sum of two integers. -/
def sum : Handler :=
  .ofShape AddArgs.shape fun args => .reply (toString (args.a.toInt + args.b.toInt))

/-- A question about the weather, repeated in one line. -/
def weather : Handler :=
  .ofShape WeatherArgs.shape fun args =>
    .reply (args.city ++ "|" ++ args.date.getD "-" ++ "|" ++ toString args.days.toNat ++ "|"
      ++ args.scale.title)

/-- Always the same reply, after a pause. -/
def sleep (milliseconds : Nat) (text : String) : Handler :=
  .ofShape .any fun _ => .pause milliseconds text

example : sum.answer "\x7b\"a\":1,\"b\":2\x7d" = "3" := by decide +kernel

end FunctionCalling.Catalogue
