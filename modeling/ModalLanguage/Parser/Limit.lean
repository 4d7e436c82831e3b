/-
Module: ModalLanguage.Parser.Limit
Purpose: The bound on the nesting of the formulas that a parser builds. It is a positive whole
  number of any size.
Main exports: Limit, Limit.standard, Limit.allows, Limit.ofDatum
-/
import ModalLanguage.Datum
import ModalLanguage.Formula.Basic

namespace ModalLanguage

/-- The greatest nesting that is accepted. -/
structure Limit where
  nesting : Nat
  positive : 0 < nesting
deriving DecidableEq, Repr

/-- A value that is no limit. -/
structure InvalidLimit where
  value : Datum

namespace InvalidLimit

/-- The message shows the value that was given. -/
def message (e : InvalidLimit) : String :=
  "max_depth must be a positive integer, got " ++ e.value.render

end InvalidLimit

namespace Limit

/-- The limit of a parser that is given none. -/
def standard : Limit := ⟨256, by decide⟩

/-- Whether a formula stays within the limit. -/
def allows (limit : Limit) (f : Formula) : Bool := f.nesting ≤ limit.nesting

/-- A limit is a positive whole number. Truth values and floating-point numbers are none, whatever
    they amount to. -/
def ofDatum (value : Datum) : Except InvalidLimit Limit :=
  match value with
  | .int i => if h : 0 < i.toNat then .ok ⟨i.toNat, h⟩ else .error ⟨value⟩
  | _ => .error ⟨value⟩

end Limit

end ModalLanguage
