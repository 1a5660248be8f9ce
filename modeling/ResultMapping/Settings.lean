import ResultMapping.Descriptor
import ResultMapping.Text.LowerCase
import ResultMapping.Text.Numeral
import ResultMapping.Text.WhiteSpace

/-!
# Settings

What holds for all descriptors and chains: which columns are mapped without an entry, and how many
interceptors a chain may have. Settings are read from JSON or from the environment, where anything
that cannot be used leaves the default in place.
-/

namespace ResultMapping

/-- Which results have their columns mapped without an entry. -/
inductive AutoMapping where
  | never
  /-- Flat results, but not nested ones. -/
  | flatOnly
  | always
deriving DecidableEq, Repr

namespace AutoMapping

def name : AutoMapping → String
  | never => "none"
  | flatOnly => "partial"
  | always => "full"

/-- All choices under their names. -/
def choices : List (String × AutoMapping) :=
  [never, flatOnly, always].map fun choice => (choice.name, choice)

/-- The choice that a text names, in whatever case and with white space around it. -/
def parse (text : String) : Except SettingsError AutoMapping :=
  match choices.lookup (Text.lowerCase (Text.trim text)) with
  | some choice => .ok choice
  | none =>
    .error (.invalidValue "auto_mapping_behavior" text "expected one of none, partial, full")

def toJson (choice : AutoMapping) : Json := .string choice.name

def ofJson : Json.Decoder AutoMapping := Json.toChoice choices

def ofText (text : String) : Except Refusal AutoMapping :=
  Json.decodeText .everything () ofJson text

end AutoMapping

/-- A variable of the environment. -/
inductive Variable where
  | unset
  | text (value : String)
  /-- Bytes that are not UTF-8. -/
  | notText
deriving DecidableEq, Repr

namespace Variable

def ofBytes (bytes : ByteArray) : Variable :=
  match String.fromUTF8? bytes with
  | some value => text value
  | none => notText

/-- The variable's text; without one it counts as unset. -/
def text? : Variable → Option String
  | text value => some value
  | _ => none

end Variable

@[ext]
structure Settings where
  autoMapping : AutoMapping := .flatOnly
  /-- How many interceptors a chain may have. -/
  maxInterceptors : UInt64 := 64
deriving DecidableEq, Repr

namespace Settings

instance : Inhabited Settings := ⟨{}⟩

/-- The settings that two variables of the environment ask for. -/
def ofEnvironment (autoMapping maxInterceptors : Variable) : Settings :=
  let defaults : Settings := {}
  { autoMapping :=
      ((autoMapping.text?.bind fun text => (AutoMapping.parse text).toOption)).getD
        defaults.autoMapping
    maxInterceptors :=
      ((maxInterceptors.text?.bind fun text =>
        (Text.Numeral.read (.unsigned 64) text).toOption).map fun n => .ofNat n.toNat).getD
        defaults.maxInterceptors }

/-- Settings are valid if a chain may have an interceptor at all. -/
def validate (s : Settings) : Except SettingsError Unit :=
  if s.maxInterceptors = 0 then
    .error (.invalidValue "max_interceptors" (toString s.maxInterceptors)
      "max_interceptors must be greater than 0")
  else .ok ()

/-- Whether the columns without an entry are mapped in a result of the descriptor. The descriptor
decides if it has a choice of its own. -/
def shouldAutoMap (s : Settings) (d : Descriptor) (nested : Bool) : Bool :=
  match d.autoMapping with
  | some choice => choice
  | none => if nested then s.autoMapping == .always else s.autoMapping != .never

def toJson (s : Settings) : Json :=
  .object [("auto_mapping_behavior", s.autoMapping.toJson),
    ("max_interceptors", .integer s.maxInterceptors.toNat)]

def ofJson (value : Json) : Except Refusal Settings := do
  let (autoMapping, maxInterceptors) ← Json.toRecord "auto_mapping_behavior" "max_interceptors"
    AutoMapping.ofJson (Json.toNatBelow UInt64.size) value
  pure ⟨autoMapping, .ofNat maxInterceptors⟩

/-- A place in the text of settings. -/
inductive Place where
  | root
  | value

def selection : Json.Selection Place where
  member
    | .root, name =>
      if name = "auto_mapping_behavior" ∨ name = "max_interceptors" then some .value else none
    | .value, _ => some .value
  item _ _ := some .value

def ofText (text : String) : Except Refusal Settings :=
  Json.decodeText selection .root ofJson text

end Settings

end ResultMapping
