import DoclingServeRay.Lib.Strings
import Mathlib.Data.Rat.Init

/-! JSON values, and reading an object into a record member by member. An
object keeps its members as they were written, repetitions included. -/

inductive Json where
  | null
  | bool (value : Bool)
  | number (value : ℚ)
  | text (value : Strings.Text)
  | array (items : List Json)
  | object (members : List (Strings.Text × Json))

namespace Json
open Strings

/-- The value of an object's member; the last one where the name is repeated. -/
def get? (json : Json) (name : Text) : Option Json :=
  match json with
  | .object members => (members.reverse.find? fun member => member.1 = name).map Prod.snd
  | _ => none

/-- Assign the members of an object one after the other; `none` as soon as one
does not fit. -/
def assignMembers (assign : σ → Text → Json → Option σ) (held : σ) :
    List (Text × Json) → Option σ
  | [] => some held
  | member :: rest =>
    (assign held member.1 member.2).bind fun next => assignMembers assign next rest

end Json
