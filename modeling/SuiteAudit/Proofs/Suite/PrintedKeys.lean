import SuiteAudit.Proofs.Suite.Growth
import SuiteAudit.Proofs.Text.Numbers
import SuiteAudit.Report.Json

/-!
# Locations as keys of printed maps

A location is printed as its path, a colon and its line, and perhaps an example in parentheses behind
them. The path may hold all of these characters too, so the text is read from its end: what the last
character is tells the two forms apart, and a number goes back to the last character that is no digit
(`Text.append_ofNat_inj`). So different locations are printed differently, and the maps of a definition,
whose keys are in order whatever is done to it, become objects whose names all differ.
-/

namespace SuiteAudit

/-! ## Printed locations -/

theorem Location.text_injective : Function.Injective Location.text := by
  rintro ⟨⟨file⟩, line⟩ ⟨⟨file'⟩, line'⟩ same
  obtain ⟨rfl, rfl⟩ := Text.append_ofNat_inj (by decide) same
  rfl

namespace StepLocation

theorem text_getLast?_plain (l : Location) :
    ∃ c, (StepLocation.mk l none).text.getLast? = some c ∧ c.isDigit = true := by
  have filled : Text.ofNat l.line ≠ [] := Nat.toDigits_ne_nil
  refine ⟨(Text.ofNat l.line).getLast filled, ?_, ?_⟩
  · simp [text, Location.text, List.getLast?_append, List.getLast?_cons, List.getLast?_eq_some_getLast filled]
  · exact Nat.isDigit_of_mem_toDigits (by decide) (by decide) (List.getLast_mem filled)

theorem text_getLast?_example (l : Location) (n : Nat) :
    (StepLocation.mk l (some n)).text.getLast? = some ')' :=
  List.getLast?_concat

theorem text_ne (l l' : Location) (n : Nat) :
    (StepLocation.mk l none).text ≠ (StepLocation.mk l' (some n)).text := by
  intro same
  obtain ⟨c, last, digit⟩ := text_getLast?_plain l
  rw [same, text_getLast?_example] at last
  cases last
  cases digit

theorem text_injective : Function.Injective text := by
  rintro ⟨l, row⟩ ⟨l', row'⟩ same
  cases row with
  | none =>
      cases row' with
      | none =>
          have location : l = l' := Location.text_injective same
          rw [location]
      | some n => exact absurd same (text_ne l l' n)
  | some n =>
      cases row' with
      | none => exact absurd same.symm (text_ne l' l n)
      | some n' =>
          have numbered : (l.text ++ "(Example".toList) ++ ' ' :: Text.ofNat n =
              (l'.text ++ "(Example".toList) ++ ' ' :: Text.ofNat n' := by
            have inside := List.append_cancel_right same
            simpa using inside
          obtain ⟨location, rfl⟩ := Text.append_ofNat_inj (by decide) numbered
          rw [Location.text_injective (List.append_cancel_right location)]

end StepLocation

/-! ## The maps of a definition -/

theorem Sorted.Ordered.nodup_texts {κ α : Type} {order : κ → κ → Ordering} [Std.ReflCmp order]
    {m : Sorted κ α} (ordered : Sorted.Ordered order m) {text : κ → Text}
    (injective : Function.Injective text) : (m.map fun e => text e.1).Nodup := by
  refine List.pairwise_map.mpr (ordered.imp fun {a b} less same => ?_)
  have irreflexive : order b.1 b.1 = .eq := Std.ReflCmp.compare_self
  rw [injective same, irreflexive] at less
  cases less

namespace StepDefinition

/-- What can become of a definition: it is read from a file, calls are recorded one by one, and rules
judge it, in any order and any number of times. -/
inductive Arises : StepDefinition → Prop
  | read {file : SourcePath} {t : Text} {d : StepDefinition} (member : d ∈ ofText file t) : Arises d
  | call {d : StepDefinition} (before : Arises d) (l : StepLocation) (t : Text) : Arises (d.addCall l t)
  | judge {d : StepDefinition} (before : Arises d) (c : Criteria) : Arises (c.evaluateDefinition d)

theorem Arises.addCalls {d : StepDefinition} (arises : d.Arises) (calls : List (StepLocation × Text)) :
    (d.addCalls calls).Arises := by
  unfold StepDefinition.addCalls
  induction calls generalizing d with
  | nil => exact arises
  | cons e calls ih => exact ih (.call arises e.1 e.2)

theorem Arises.catalog {d : StepDefinition} (arises : d.Arises) (u : Universe) :
    (d.catalog u).Arises := by
  have matched := arises.addCalls (u.calls.filter fun e => d.isMatch e.2)
  simp only [StepDefinition.catalog]
  split
  · exact matched.addCalls _
  · exact matched

theorem ofText_nested_ordered {file : SourcePath} {t : Text} {d : StepDefinition}
    (member : d ∈ ofText file t) : Sorted.Ordered Location.order d.nested := by
  refine (List.Pairwise.and_mem.mp (ofText_nested_pairwise member)).imp ?_
  rintro e e' ⟨called, called', less⟩
  have file : e.1.file = e'.1.file :=
    (ofText_nested_file member called).trans (ofText_nested_file member called').symm
  rw [Location.order, file, SourcePath.order_eq_iff.mpr rfl]
  exact Nat.compare_eq_lt.mpr less

theorem Arises.ordered {d : StepDefinition} (arises : d.Arises) :
    Sorted.Ordered Location.order d.nested ∧ Sorted.Ordered StepLocation.order d.calls := by
  induction arises with
  | read member =>
      refine ⟨ofText_nested_ordered member, ?_⟩
      rw [ofText_calls member]
      exact Sorted.ordered_nil
  | call _ l t ih => exact ⟨ih.1, Sorted.alter_ordered _ _ ih.2⟩
  | judge _ c ih => exact ih

end StepDefinition

theorem audit_arises {config : Config} {featureFiles stepFiles : List SourceFile}
    {report : SuiteReport} (done : audit config featureFiles stepFiles = .ok report)
    {d : StepDefinition} (member : d ∈ report.suite.definitions) : d.Arises := by
  obtain ⟨criteria, -, rfl, -⟩ := audit_eq_ok.mp done
  obtain ⟨source, definition, rfl⟩ := SuiteReport.mem_definitions.mp member
  obtain ⟨file, -, read⟩ := Suite.mem_definitions.mp definition
  exact .judge (StepDefinition.Arises.catalog (.read read) _) criteria

/-! ## Objects -/

namespace JsonValue

/-- The value of a field of an object. -/
def field? (name : Text) : JsonValue → Option JsonValue
  | object fs => fs.lookup name
  | _ => none

/-- A field of the value is an object with `n` entries, no two of them under one name. -/
def HoldsApart (v : JsonValue) (name : Text) (n : Nat) : Prop :=
  ∃ fs, v.field? name = some (object fs) ∧ fs.length = n ∧ (fs.map Prod.fst).Nodup

end JsonValue

theorem StepDefinition.json_nested (d : StepDefinition) : d.json.field? "nested_steps" =
    some (.object (d.nested.map fun e => (e.1.text, .text e.2))) := by
  rfl

theorem StepDefinition.json_calls (d : StepDefinition) : d.json.field? "calls" =
    some (.object (d.calls.map fun e => (e.1.text, .text e.2))) := by
  rfl

theorem StepDefinition.Arises.holdsApart {d : StepDefinition} (arises : d.Arises) :
    d.json.HoldsApart "nested_steps" d.nested.length ∧ d.json.HoldsApart "calls" d.calls.length := by
  obtain ⟨nested, calls⟩ := arises.ordered
  refine ⟨⟨_, d.json_nested, List.length_map _, ?_⟩, ⟨_, d.json_calls, List.length_map _, ?_⟩⟩
  · rw [List.map_map]
    exact nested.nodup_texts Location.text_injective
  · rw [List.map_map]
    exact calls.nodup_texts StepLocation.text_injective

/-- Locations that are printed alike have the same path, line and example. So the calls of a definition,
nested ones and those of the suite, are printed under as many names as there are calls, whatever was done
to the definition after it was read, and so in every report. -/
theorem StepLocation.text_names_one_call :
    (∀ a b : StepLocation, a.text = b.text →
      a.location.file.text = b.location.file.text ∧ a.location.line = b.location.line ∧ a.row = b.row) ∧
    (∀ d : StepDefinition, d.Arises →
      d.json.HoldsApart "nested_steps" d.nested.length ∧ d.json.HoldsApart "calls" d.calls.length) ∧
    ∀ (config : Config) (featureFiles stepFiles : List SourceFile) (report : SuiteReport),
      audit config featureFiles stepFiles = .ok report → ∀ d ∈ report.suite.definitions,
        d.json.HoldsApart "nested_steps" d.nested.length ∧ d.json.HoldsApart "calls" d.calls.length := by
  refine ⟨fun a b same => ?_, fun d arises => arises.holdsApart, ?_⟩
  · obtain rfl := text_injective same
    exact ⟨rfl, rfl, rfl⟩
  · intro config featureFiles stepFiles report done d member
    exact (audit_arises done member).holdsApart

/-- A step file whose path looks like a printed location. -/
def colonSteps : SourceFile where
  path := ⟨"x:1(Example 1)"⟩
  text := "Given /a/ do\nstep 'b'\nstep 'c'\nend"

/-- Calls in files whose paths look like printed locations. -/
def colonCalls : List (StepLocation × Text) :=
  [(⟨⟨⟨"x"⟩, 1⟩, some 1⟩, "a"), (⟨⟨⟨"x:1"⟩, 1⟩, none⟩, "a"), (⟨⟨⟨"x:1(Example 1)"⟩, 1⟩, none⟩, "a"),
   (⟨⟨⟨"x:1(Example 1)"⟩, 1⟩, some 1⟩, "a"), (⟨⟨⟨"x"⟩, 11⟩, some 1⟩, "a")]

theorem StepLocation.text_names_one_call_colons :
    let definitions := StepDefinition.ofText colonSteps.path colonSteps.text
    definitions.map (fun d => (d.nested.length, (d.addCalls colonCalls).calls.length)) = [(2, 5)] ∧
      ∀ d ∈ definitions, (d.addCalls colonCalls).json.HoldsApart "nested_steps" 2 ∧
        (d.addCalls colonCalls).json.HoldsApart "calls" 5 := by
  intro definitions
  have counts : definitions.map (fun d => (d.nested.length, (d.addCalls colonCalls).calls.length)) =
      [(2, 5)] := by decide +kernel
  refine ⟨counts, fun d member => ?_⟩
  have count := List.mem_map_of_mem (f := fun d : StepDefinition =>
    (d.nested.length, (d.addCalls colonCalls).calls.length)) member
  rw [counts, List.mem_singleton, Prod.mk.injEq] at count
  have nested : (d.addCalls colonCalls).nested = d.nested := by rw [StepDefinition.addCalls_eq]
  have apart := text_names_one_call.2.1 (d.addCalls colonCalls)
    (StepDefinition.Arises.addCalls (.read member) colonCalls)
  rwa [nested, count.1, count.2] at apart

end SuiteAudit
