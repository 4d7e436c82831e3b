/-
Module: ModalLanguage.Proofs.ModalDepth
Purpose: Modal depth is the greatest number of modal operators on a path to a leaf. In front of any
  worklist a formula is measured as by recursion, and then the rest is followed with the greater of
  what was found before and behind (`deepestModality_cons`). By recursion the measure is the greatest
  one of the operands, and it fails for a foreign leaf wherever that is. A modal operator is a level
  of nesting, so a path has fewer of them than the formula has levels, and a formula that a parser
  returns, in which nothing is foreign, has fewer of them than its limit allows.
Main exports: deepestModality_cons, Formula.modalDepth_eq, Formula.ModalPath.exists_operand,
  Formula.ModalPath.lt_nesting, Formula.Measured, Formula.measured,
  Formula.modalDepth_is_greatest_of_paths
-/
import Mathlib.Order.Bounds.Basic
import Mathlib.Order.MinMax
import ModalLanguage.Formula.ModalDepth
import ModalLanguage.Proofs.Nesting
import ModalLanguage.Proofs.Subformulas
import ModalLanguage.Proofs.WellFormed

namespace ModalLanguage

/-! ### The worklist -/

/-- The first formula of a worklist is measured, and the rest is followed from the greater number. -/
theorem deepestModality_cons (deepest : Nat) (f : Formula) (above : Nat)
    (work : List (Formula × Nat)) :
    deepestModality deepest ((f, above) :: work) =
      f.modalHeight.bind fun height => deepestModality (max deepest (above + height)) work := by
  induction f generalizing deepest above work with
  | atom | constant | predicate | foreign =>
      rw [deepestModality]
      rfl
  | negation operand ih | quantified op bound operand ih =>
      rw [deepestModality, ih, Formula.modalHeight]
  | modal op agent operand ih =>
      rw [deepestModality, ih, Formula.modalHeight]
      cases operand.modalHeight with
      | error fault => rfl
      | ok height =>
          change deepestModality (max deepest (above + 1 + height)) work =
            deepestModality (max deepest (above + (height + 1))) work
          rw [Nat.add_assoc, Nat.add_comm 1 height]
  | binary op left right ihLeft ihRight =>
      rw [deepestModality, ihRight, Formula.modalHeight]
      cases right.modalHeight with
      | error fault => rfl
      | ok inRight =>
          change deepestModality (max deepest (above + inRight)) ((left, above) :: work) = _
          rw [ihLeft]
          cases left.modalHeight with
          | error fault => rfl
          | ok inLeft =>
              change deepestModality (max (max deepest (above + inRight)) (above + inLeft)) work =
                deepestModality (max deepest (above + max inLeft inRight)) work
              congr 1
              omega

namespace Formula

/-- The worklist finds what the recursion does. -/
theorem modalDepth_eq (f : Formula) : f.modalDepth = f.modalHeight := by
  rw [modalDepth, deepestModality_cons]
  cases f.modalHeight with
  | error fault => rfl
  | ok height =>
      change deepestModality (max 0 (0 + height)) [] = .ok height
      rw [deepestModality, Nat.zero_add, Nat.zero_max]

/-! ### Paths -/

/-- A path from a formula with operands goes on in one of these. -/
theorem ModalPath.exists_operand {f : Formula} {n : Nat} (inner : f.children ≠ [])
    (path : f.ModalPath n) :
    ∃ operand ∈ f.children, ∃ m, operand.ModalPath m ∧ n = m + if f.isModal then 1 else 0 := by
  cases path with
  | leaf isLeaf => exact absurd isLeaf inner
  | step member path => exact ⟨_, member, _, path, rfl⟩

/-- A path passes fewer modal operators than there are levels of nesting. -/
theorem ModalPath.lt_nesting {f : Formula} {n : Nat} (path : f.ModalPath n) : n < f.nesting := by
  induction path with
  | leaf => exact one_le_nesting _
  | @step f operand n member path ih =>
      cases f with
      | modal op agent inner =>
          obtain rfl := List.mem_singleton.1 member
          exact Nat.succ_lt_succ ih
      | _ => exact Nat.lt_of_lt_of_le ih (nesting_le_of_mem_children member)

/-! ### Measuring -/

/-- What a formula may be measured as: the greatest number of modal operators on a path to a leaf
    when nothing in it is foreign, and otherwise the fault of a foreign leaf in it. -/
inductive Measured (f : Formula) : Except Fault Nat → Prop where
  | known {depth : Nat} (known : ∀ kind text, ¬ (foreign kind text).Subformula f)
      (greatest : IsGreatest {n | f.ModalPath n} depth) : Measured f (.ok depth)
  | unknown {kind text : String} (inside : (foreign kind text).Subformula f) :
      Measured f (.error (.unknownNode kind))

/-- A foreign leaf in a formula with operands is in one of these. -/
theorem exists_operand_of_foreign {f : Formula} {kind text : String} (inner : f.children ≠ [])
    (inside : (foreign kind text).Subformula f) :
    ∃ operand ∈ f.children, (foreign kind text).Subformula operand := by
  rcases subformula_iff.1 inside with rfl | below
  · exact absurd rfl inner
  · exact below

namespace Measured

variable {f : Formula} {outcome : Except Fault Nat}

/-- The one path from a leaf ends at once. -/
theorem leaf (isLeaf : f.children = []) (known : ∀ kind text, f ≠ foreign kind text) :
    f.Measured (.ok 0) := by
  refine .known ?_ ⟨.leaf isLeaf, ?_⟩
  · intro kind text inside
    rcases subformula_iff.1 inside with same | ⟨operand, member, -⟩
    · exact known kind text same.symm
    · rw [isLeaf] at member
      cases member
  · intro n path
    cases path with
    | leaf => exact Nat.le_refl 0
    | step member =>
        rw [isLeaf] at member
        cases member

/-- The paths of a formula with one operand are those of the operand, and a modal operator is on each
    of them. -/
theorem unary {operand : Formula} (only : f.children = [operand]) (below : operand.Measured outcome) :
    f.Measured (outcome.map (· + if f.isModal then 1 else 0)) := by
  have member : operand ∈ f.children := by
    rw [only]
    exact List.mem_singleton_self operand
  have inner := List.ne_nil_of_mem member
  cases below with
  | unknown inside => exact .unknown (.operand member inside)
  | known known greatest =>
      refine .known ?_ ⟨ModalPath.step member greatest.1, ?_⟩
      · intro kind text inside
        obtain ⟨operand', member', inside⟩ := exists_operand_of_foreign inner inside
        rw [only, List.mem_singleton] at member'
        exact known kind text (member' ▸ inside)
      · intro n path
        obtain ⟨operand', member', m, behind, rfl⟩ := ModalPath.exists_operand inner path
        rw [only, List.mem_singleton] at member'
        subst member'
        exact Nat.add_le_add_right (greatest.2 behind) _

theorem unary_of_not_isModal {operand : Formula} (only : f.children = [operand])
    (plain : f.isModal = false) (below : operand.Measured outcome) : f.Measured outcome := by
  have counted := below.unary only
  rw [plain] at counted
  cases outcome with
  | error fault => exact counted
  | ok height => exact counted

/-- The paths of a connective are those of both operands. -/
theorem binary {op : Connective} {left right : Formula} {inLeft inRight : Except Fault Nat}
    (ofLeft : left.Measured inLeft) (ofRight : right.Measured inRight) :
    (binary op left right).Measured
      (inRight.bind fun r => inLeft.map fun l => max l r) := by
  have memberLeft : left ∈ (Formula.binary op left right).children := List.mem_cons_self
  have memberRight : right ∈ (Formula.binary op left right).children :=
    List.mem_cons_of_mem _ (List.mem_singleton_self _)
  have inner := List.ne_nil_of_mem memberLeft
  cases ofRight with
  | unknown inside => exact .unknown (.operand memberRight inside)
  | @known r knownRight greatestRight =>
      cases ofLeft with
      | unknown inside => exact .unknown (.operand memberLeft inside)
      | @known l knownLeft greatestLeft =>
          refine .known ?_ ⟨?_, ?_⟩
          · intro kind text inside
            obtain ⟨operand, member, below⟩ := exists_operand_of_foreign inner inside
            rcases mem_children_binary.1 member with rfl | rfl
            · exact knownLeft kind text below
            · exact knownRight kind text below
          · change ModalPath _ (max l r)
            rcases max_choice l r with same | same
            · rw [same]
              exact .step memberLeft greatestLeft.1
            · rw [same]
              exact .step memberRight greatestRight.1
          · intro n path
            obtain ⟨operand, member, m, behind, rfl⟩ := ModalPath.exists_operand inner path
            rcases mem_children_binary.1 member with rfl | rfl
            · exact (greatestLeft.2 behind).trans (le_max_left l r)
            · exact (greatestRight.2 behind).trans (le_max_right l r)

end Measured

/-- The recursion measures every formula, and so does the worklist. -/
theorem measured (f : Formula) : f.Measured f.modalDepth := by
  rw [modalDepth_eq]
  induction f with
  | atom | constant | predicate => exact .leaf rfl nofun
  | foreign => exact .unknown .self
  | negation operand ih | quantified op bound operand ih => exact ih.unary_of_not_isModal rfl rfl
  | modal op agent operand ih => exact ih.unary rfl
  | binary op left right ihLeft ihRight => exact ihLeft.binary ihRight

/-- Nothing in a formula whose names can be read is foreign. -/
theorem WellNamed.not_foreign {f : Formula} (named : f.WellNamed) (kind text : String) :
    ¬ (foreign kind text).Subformula f :=
  fun inside => inside.wellNamed named

/-- Measuring a formula fails when there is a foreign leaf in it, and then it names the kind of one.
    Otherwise modal depth is the greatest number of modal operators on a path to a leaf, and it is
    less than nesting. So a formula that a parser returns has a modal depth below its limit. -/
theorem modalDepth_is_greatest_of_paths (f : Formula) :
    (∀ fault, f.modalDepth = .error fault →
      ∃ kind text, fault = .unknownNode kind ∧ (foreign kind text).Subformula f) ∧
      ((∃ kind text, (foreign kind text).Subformula f) →
        ∃ kind, f.modalDepth = .error (.unknownNode kind)) ∧
      ((∀ kind text, ¬ (foreign kind text).Subformula f) →
        ∃ depth, f.modalDepth = .ok depth ∧ IsGreatest {n | f.ModalPath n} depth ∧
          depth + 1 ≤ f.nesting) ∧
      ∀ (p : Parser) (text : String), p.parse text = .ok f →
        ∃ depth, f.modalDepth = .ok depth ∧ depth + 1 ≤ p.limit.nesting := by
  have measured := f.measured
  generalize f.modalDepth = outcome at measured ⊢
  cases measured with
  | unknown inside =>
      refine ⟨?_, fun _ => ⟨_, rfl⟩, fun known => absurd inside (known _ _), ?_⟩
      · intro fault failed
        cases failed
        exact ⟨_, _, rfl, inside⟩
      · intro p text parsed
        exact absurd inside ((Parser.wellNamed_of_parse parsed).1.not_foreign _ _)
  | @known depth known greatest =>
      have below : depth + 1 ≤ f.nesting := ModalPath.lt_nesting greatest.1
      refine ⟨nofun, fun ⟨kind, text, inside⟩ => absurd inside (known kind text),
        fun _ => ⟨depth, rfl, greatest, below⟩, ?_⟩
      intro p text parsed
      exact ⟨depth, rfl, below.trans (Parser.wellNamed_of_parse parsed).2⟩

end Formula

end ModalLanguage
