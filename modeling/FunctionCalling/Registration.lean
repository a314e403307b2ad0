/-
  Registering step by step.

  A `Registration` is what a host has at hand while it sets things up: plugins under
  construction, numbered from 0, the registry, a registry put aside, and the next identity.
  `Registration.apply` takes one step.  Every callable made on the way has an identity of its
  own, because `next` grows with each draft; a plugin put into the registry shares its callables
  with the one under construction.
-/
import FunctionCalling.Registry

namespace FunctionCalling

/-- What a host has at hand while it registers functions. -/
structure Registration where
  plugins : List Plugin
  registry : Registry
  saved : Registry
  next : Nat

namespace Registration

/-- Nothing registered yet. -/
def start : Registration :=
  ⟨[], .empty, .empty, 0⟩

/-- One step of registering. -/
inductive Step where
  /-- A new plugin, which gets the next number. -/
  | create (name : String) (description : Option String)
  /-- A new plugin made of functions, which gets the next number. -/
  | createFrom (name : String) (functions : List Draft)
  /-- A copy of a plugin under construction, which gets the next number. -/
  | copy (plugin : Nat)
  /-- A description for a plugin under construction. -/
  | describe (plugin : Nat) (description : String)
  /-- A function more in a plugin under construction. -/
  | add (plugin : Nat) (function : Draft)
  /-- A plugin under construction as it is now, put into the registry. -/
  | register (plugin : Nat)
  /-- A plugin made of functions, put into the registry. -/
  | addFunctions (name : String) (functions : List Draft)
  /-- Puts the registry aside. -/
  | save
  /-- Takes up the registry put aside. -/
  | restore

/-- What a step comes to. -/
inductive Reply where
  | created (plugin : Nat)
  | added (function : Callable)
  | done
  | refused (fault : Error)
  | noSuchPlugin

/-- Takes one step.  A step that is refused changes nothing but the next identity. -/
def apply (s : Registration) : Step → Reply × Registration
  | .create name description =>
    match Plugin.create name with
    | .error fault => (.refused fault, s)
    | .ok p =>
      (.created s.plugins.length,
        { s with plugins := s.plugins ++ [p.withDescription (description.getD "")] })
  | .createFrom name functions =>
    let next := s.next + functions.length
    match Plugin.ofDrafts s.next name functions with
    | .error fault => (.refused fault, { s with next := next })
    | .ok p => (.created s.plugins.length, { s with plugins := s.plugins ++ [p], next := next })
  | .copy plugin =>
    match s.plugins[plugin]? with
    | none => (.noSuchPlugin, s)
    | some p => (.created s.plugins.length, { s with plugins := s.plugins ++ [p] })
  | .describe plugin description =>
    match s.plugins[plugin]? with
    | none => (.noSuchPlugin, s)
    | some p => (.done, { s with plugins := s.plugins.set plugin (p.withDescription description) })
  | .add plugin function =>
    match s.plugins[plugin]? with
    | none => (.noSuchPlugin, s)
    | some p =>
      match p.add s.next function with
      | .error fault => (.refused fault, { s with next := s.next + 1 })
      | .ok q =>
        (.added (.ofMember s.next p.name function),
          { s with plugins := s.plugins.set plugin q, next := s.next + 1 })
  | .register plugin =>
    match s.plugins[plugin]? with
    | none => (.noSuchPlugin, s)
    | some p =>
      match s.registry.add p with
      | .error fault => (.refused fault, s)
      | .ok r => (.done, { s with registry := r })
  | .addFunctions name functions =>
    let next := s.next + functions.length
    match s.registry.addDrafts s.next name functions with
    | .error fault => (.refused fault, { s with next := next })
    | .ok r => (.done, { s with registry := r, next := next })
  | .save => (.done, { s with saved := s.registry })
  | .restore => (.done, { s with registry := s.saved })

/-- Takes several steps. -/
def run (s : Registration) (steps : List Step) : Registration :=
  steps.foldl (fun s step => (s.apply step).2) s

end Registration

end FunctionCalling
