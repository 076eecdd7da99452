import FormAssembly.Error

/-!
# Events

What the library reports about its own work. An operation that reports returns its events, oldest
first, beside its value.
-/

namespace FormAssembly

/-- How much an event matters. -/
inductive Level
  | trace
  | debug
  | warn
  deriving DecidableEq, Repr

def Level.label : Level → String
  | .trace => "TRACE"
  | .debug => "DEBUG"
  | .warn => "WARN"

/-- Something that an operation reports. -/
inductive Event
  /-- A form was built. -/
  | formBuilt (rank coefficients : Nat) (kinds : List IntegralKind)
  /-- A form was given a mesh of its own. -/
  | meshSet (tdim : Nat)
  /-- A form's markers for a kind were replaced, or removed. -/
  | markersChanged (kind : IntegralKind) (installed : Bool)
  /-- A scalar is about to be finalized. -/
  | scalarApply (mode : String) (processes : Nat)
  /-- A dense tensor is about to be finalized. -/
  | denseApply (mode : String) (values processes : Nat)
  /-- All entities of a kind have been assembled. -/
  | assembled (kind : IntegralKind) (blocks : Nat)
  /-- Assembly failed and its result was zeroed. -/
  | discarded (cause : Error)
  deriving DecidableEq, Repr

namespace Event

def level : Event → Level
  | formBuilt .. | meshSet .. | markersChanged .. | scalarApply .. | denseApply .. => .debug
  | assembled .. => .trace
  | discarded .. => .warn

/-- Name of a kind of entity as running text. -/
def entityName : IntegralKind → String
  | .cell => "cell"
  | .exteriorFacet => "exterior facet"
  | .interiorFacet => "interior facet"
  | .vertex => "vertex"

def message : Event → String
  | formBuilt rank coefficients kinds =>
      s!"form: rank {rank}, {coefficients} coefficient(s), integrals " ++
        Inspect.brackets (kinds.map IntegralKind.constructorName)
  | meshSet tdim => s!"form: explicit mesh set (tdim = {tdim})"
  | markersChanged kind installed =>
      s!"form: {kind.label} domains " ++ (if installed then "set" else "cleared")
  | scalarApply mode processes => s!"scalar apply: mode {mode}, {processes} process(es)"
  | denseApply mode values processes =>
      s!"dense apply: mode {mode}, {values} value(s), {processes} process(es)"
  | assembled kind blocks => s!"assembled {blocks} {entityName kind} block(s)"
  | discarded cause => s!"assembly failed, discarding partial result: {cause.message}"

/-- An event as a line of a log. -/
def line (event : Event) : String :=
  event.level.label ++ " " ++ event.message

end Event

/-- A value with the events of the operation that made it. -/
structure Reported (α : Type) where
  value : α
  events : List Event

end FormAssembly
