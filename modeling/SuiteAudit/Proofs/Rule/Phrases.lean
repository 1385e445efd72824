import SuiteAudit.Proofs.Text.Replace
import SuiteAudit.Rule.Basic

/-!
# What a rule says

A phrase is filled in by one replacement after the other, and a later one reads what an earlier one put in. Each
replacement fills in one more slot of the phrase as long as the values of the others do not make up the slot that it
looks for (`replace_fill`). The name of a kind never does; a detail in place of the tag can make up the slot of the
word, and then it is put into itself (`render_eq_filled_forall_iff`).
-/

namespace SuiteAudit

/-- A place of a phrase that is filled in. -/
inductive Slot
  | kind
  | tag
  | word
deriving DecidableEq

namespace Slot

open Text

def text : Slot → Text
  | kind => "\x7bclass\x7d"
  | tag => "\x7btag\x7d"
  | word => "\x7bword\x7d"

theorem text_ne_nil (a : Slot) : a.text ≠ [] := by
  cases a <;> decide

theorem text_clear {a b : Slot} (other : b ≠ a) : Clear a.text b.text := by
  cases a <;> cases b <;> first | contradiction | decide

theorem text_solid (a b : Slot) : Solid a.text b.text := by
  by_cases same : b = a
  · rw [same]
    have borderless : Borderless a.text := by cases a <;> decide
    exact borderless.solid
  · exact (text_clear same).solid

theorem kind_clear (a : Slot) (kind : NodeKind) : Clear a.text kind.text := by
  cases a <;> cases kind <;> decide

/-! ## Filling in all slots at once -/

def table (value : Slot → Text) : List (Text × Text) :=
  [(kind.text, value kind), (tag.text, value tag), (word.text, value word)]

/-- The phrase with their values for its slots, all at once. -/
def fill (value : Slot → Text) (t : Text) : Text := substitute (table value) t

variable {value : Slot → Text}

theorem exists_of_mem_table {e : Text × Text} (member : e ∈ table value) : ∃ a : Slot, e = (a.text, value a) := by
  simp only [table, List.mem_cons, List.not_mem_nil, or_false] at member
  rcases member with rfl | rfl | rfl
  · exact ⟨kind, rfl⟩
  · exact ⟨tag, rfl⟩
  · exact ⟨word, rfl⟩

theorem fill_of_plain {t : Text} (plain : ∀ a : Slot, ¬ a.text <:+: t) : fill value t = t := by
  refine substitute_of_not_infix fun e member => ?_
  obtain ⟨a, rfl⟩ := exists_of_mem_table member
  exact plain a

theorem fill_text_append (a : Slot) (t : Text) : fill value (a.text ++ t) = value a ++ fill value t := by
  have found : (table value).find? (fun e => e.1.isPrefixOf (a.text ++ t)) = some (a.text, value a) := by
    cases a <;> rfl
  exact substitute_found (e := (a.text, value a)) (text_ne_nil a) found

theorem fill_append (s : Text) (a : Slot) (t : Text) :
    fill value (s ++ (a.text ++ t)) = fill value s ++ (value a ++ fill value t) := by
  rw [← fill_text_append]
  refine substitute_append fun e member => ?_
  obtain ⟨b, rfl⟩ := exists_of_mem_table member
  exact (text_solid b a).start s t

/-- A phrase has no slots, or one that cuts it into two phrases. -/
theorem phrase_induction {motive : Text → Prop} (plain : ∀ t, (∀ a : Slot, ¬ a.text <:+: t) → motive t)
    (cut : ∀ s a t, motive s → motive t → motive (s ++ (text a ++ t))) (t : Text) : motive t := by
  induction size : t.length using Nat.strongRecOn generalizing t with
  | ind n ih =>
      by_cases slots : ∃ a : Slot, a.text <:+: t
      · obtain ⟨a, s, r, rfl⟩ := slots
        have filled : 0 < a.text.length := List.length_pos_iff.mpr (text_ne_nil a)
        rw [List.length_append, List.length_append] at size
        rw [List.append_assoc]
        exact cut s a r (ih _ (by omega) s rfl) (ih _ (by omega) r rfl)
      · exact plain t (not_exists.mp slots)

theorem fill_text (t : Text) : fill text t = t := by
  induction t using phrase_induction with
  | plain t plain => exact fill_of_plain plain
  | cut s a t left right => rw [fill_append, left, right]

/-! ## One slot after the other -/

/-- A replacement fills in one more slot if the values of the others in the phrase are clear of it. -/
theorem replace_fill {a : Slot} (unfilled : value a = a.text) (v : Text) {t : Text}
    (clear : ∀ b, b ≠ a → b.text <:+: t → Clear a.text (value b)) :
    replace a.text v (fill value t) = fill (Function.update value a v) t := by
  induction t using phrase_induction with
  | plain t plain => rw [fill_of_plain plain, fill_of_plain plain, replace_of_not_infix (plain a)]
  | cut s b t left right =>
      have left := left fun c other inside => clear c other (inside.trans (List.prefix_append _ _).isInfix)
      have right := right fun c other inside =>
        clear c other (inside.trans ((List.suffix_append _ _).trans (List.suffix_append _ _)).isInfix)
      rw [fill_append, fill_append]
      by_cases same : b = a
      · rw [same, unfilled, (text_solid a a).replace, left, right,
          replace_marker_self (text_ne_nil a), Function.update_self]
      · have clear := clear b same ⟨s, t, List.append_assoc _ _ _⟩
        rw [clear.solid.replace, left, right, Function.update_of_ne same,
          replace_of_not_infix (clear.not_infix (text_ne_nil a))]

/-- The slots with the name of a kind and a tag, where the word is not filled in yet. -/
def wordless (node : NodeKind) (d : Text) : Slot → Text :=
  Function.update (Function.update text kind node.text) tag d

theorem replace_tag_replace_kind (node : NodeKind) (d t : Text) :
    replace tag.text d (replace kind.text node.text t) = fill (wordless node d) t := by
  have named : replace kind.text node.text (fill text t) = fill (Function.update text kind node.text) t :=
    replace_fill rfl node.text fun b other _ => text_clear other
  rw [fill_text] at named
  rw [named]
  have unfilled : Function.update text kind node.text tag = tag.text := rfl
  refine replace_fill unfilled d fun b other _ => ?_
  cases b with
  | kind => exact kind_clear tag node
  | tag => contradiction
  | word => exact text_clear other

theorem replace_word (node : NodeKind) {d t : Text} (clear : ¬ tag.text <:+: t ∨ Clear word.text d) :
    replace word.text d (fill (wordless node d) t) = fill (Function.update (wordless node d) word d) t := by
  have unfilled : wordless node d word = word.text := rfl
  refine replace_fill unfilled d fun b other inside => ?_
  cases b with
  | kind => exact kind_clear word node
  | tag => exact clear.resolve_left (not_not_intro inside)
  | word => contradiction

/-- A tag between two parts of the slot of the word. -/
theorem fill_around {i j : Nat} (front : i < word.text.length) (back : j < word.text.length) :
    fill value (word.text.take i ++ (tag.text ++ word.text.drop (j + 1))) =
      word.text.take i ++ (value tag ++ word.text.drop (j + 1)) := by
  have plain : ∀ a : Slot, ∀ i < word.text.length,
      ¬ a.text <:+: word.text.take i ∧ ¬ a.text <:+: word.text.drop (i + 1) := by
    intro a
    cases a <;> decide
  rw [fill_append, fill_of_plain fun a => (plain a i front).1, fill_of_plain fun a => (plain a j back).2]

end Slot

namespace Rule

open Text

/-- The phrase with the name of the kind and the detail in their places, all at once. -/
def filled (r : Rule) (kind : NodeKind) (detail : Text) : Text :=
  substitute [("\x7bclass\x7d", kind.text), ("\x7btag\x7d", detail), ("\x7bword\x7d", detail)] r.phrase

theorem render_eq_replace (r : Rule) (kind : NodeKind) (d : Text) :
    r.render kind (some d) = replace Slot.word.text d (Slot.fill (Slot.wordless kind d) r.phrase) := by
  rw [← Slot.replace_tag_replace_kind]
  rfl

theorem filled_eq_fill (r : Rule) (kind : NodeKind) (d : Text) :
    r.filled kind d = Slot.fill (Function.update (Slot.wordless kind d) .word d) r.phrase := rfl

/-- A phrase that ends in a tag and a full stop, with a blank before the tag, says the detail as it is exactly if the
detail has no slot of the word in it, or is that slot. -/
theorem render_eq_filled_iff_of_last {r : Rule} {s front : Text} (phrase : r.phrase = s ++ (Slot.tag.text ++ ['.']))
    {kind : NodeKind} (said : ∀ value, value .kind = kind.text → Slot.fill value s = front ++ [' '])
    (plain : ¬ Slot.word.text <:+: front ++ [' ']) (d : Text) :
    r.render kind (some d) = r.filled kind d ↔ d = Slot.word.text ∨ ¬ Slot.word.text <:+: d := by
  have stop : ∀ a : Slot, ¬ a.text <:+: ['.'] := by
    intro a
    cases a <;> decide
  have whole : ∀ value, value .kind = kind.text → value .tag = d →
      Slot.fill value r.phrase = front ++ [' '] ++ (d ++ ['.']) := by
    intro value named tagged
    rw [phrase, Slot.fill_append, said value named, tagged, Slot.fill_of_plain stop]
  have before : Apart Slot.word.text (front ++ [' ']) (d ++ ['.']) := .of_not_mem_left (by decide) _ _
  have behind : Apart Slot.word.text d ['.'] := .of_not_mem_right (by decide) _ _
  rw [render_eq_replace, filled_eq_fill, whole _ rfl rfl, whole _ rfl rfl,
    replace_eq_self_iff (Slot.text_ne_nil .word), before.infix_iff, behind.infix_iff]
  simp only [plain, stop, false_or, or_false]

theorem standard_tagged (kind : NodeKind) {id : RuleId} (tagged : Slot.tag.text <:+: (standard id).phrase) :
    ∃ s front, (standard id).phrase = s ++ (Slot.tag.text ++ ['.']) ∧
      (∀ value, value .kind = kind.text → Slot.fill value s = front ++ [' ']) ∧
      ¬ Slot.word.text <:+: front ++ [' '] := by
  cases id
  case sameTagOnAllScenarios =>
    refine ⟨"Same tag appears on all scenarios: ", "Same tag appears on all scenarios:", by decide, fun _ _ => ?_,
      by decide⟩
    exact Slot.fill_of_plain fun a => by cases a <;> decide
  case duplicateTag =>
    refine ⟨Slot.kind.text ++ " has a duplicate tag: ".toList, kind.text ++ " has a duplicate tag:".toList, by decide,
      fun value named => ?_, by cases kind <;> decide⟩
    rw [Slot.fill_text_append, named, Slot.fill_of_plain fun a => by cases a <;> decide, List.append_assoc]
    rfl
  all_goals exact absurd tagged (by decide +kernel)

theorem render_eq_filled_of_clear {r : Rule} {d : Text}
    (clear : ¬ Slot.tag.text <:+: r.phrase ∨ Clear Slot.word.text d) (kind : NodeKind) :
    r.render kind (some d) = r.filled kind d := by
  rw [render_eq_replace, Slot.replace_word kind clear, filled_eq_fill]

theorem render_eq_filled_forall_iff (kind : NodeKind) (d : Text) :
    (∀ r : Rule, r.render kind (some d) = r.filled kind d) ↔ d = Slot.word.text ∨ Clear Slot.word.text d := by
  constructor
  · intro always
    by_cases same : d = Slot.word.text
    · exact .inl same
    · refine .inr fun i front j back => ?_
      -- The phrase whose tag stands between the two parts says the detail between them.
      have said := always
        { phrase := Slot.word.text.take i ++ (Slot.tag.text ++ Slot.word.text.drop (j + 1))
          score := 0
          targets := [] }
      rw [render_eq_replace, filled_eq_fill, Slot.fill_around front back, Slot.fill_around front back] at said
      exact ((replace_eq_self_iff (Slot.text_ne_nil .word)).mp said).resolve_left same
  · rintro (rfl | clear) r
    · have unchanged : Function.update (Slot.wordless kind Slot.word.text) .word Slot.word.text =
          Slot.wordless kind Slot.word.text := Function.update_eq_self Slot.word _
      rw [render_eq_replace, filled_eq_fill, replace_self (Slot.text_ne_nil .word), unchanged]
    · exact render_eq_filled_of_clear (.inr clear) kind

/-- A detail is said as it is where the phrase has no slot for a tag, and where it cannot make up the slot of the
word. All phrases say it as it is exactly if it is clear of that slot, or is that slot; a standard rule with a tag
does exactly if that slot is not in the detail, or is all of it. -/
theorem render_eq_filled (kind : NodeKind) (d : Text) :
    (∀ r : Rule, ¬ Slot.tag.text <:+: r.phrase ∨ Clear Slot.word.text d →
      r.render kind (some d) = r.filled kind d) ∧
    ((∀ r : Rule, r.render kind (some d) = r.filled kind d) ↔
      d = Slot.word.text ∨ Clear Slot.word.text d) ∧
    ∀ id, (standard id).render kind (some d) = (standard id).filled kind d ↔
      ¬ Slot.tag.text <:+: (standard id).phrase ∨ d = Slot.word.text ∨ ¬ Slot.word.text <:+: d := by
  refine ⟨fun r clear => render_eq_filled_of_clear clear kind, render_eq_filled_forall_iff kind d, fun id => ?_⟩
  by_cases tagged : Slot.tag.text <:+: (standard id).phrase
  · obtain ⟨s, front, phrase, said, plain⟩ := standard_tagged kind tagged
    rw [render_eq_filled_iff_of_last phrase said plain]
    simp only [tagged, not_true, false_or]
  · simp only [tagged, not_false_iff, true_or, iff_true]
    exact render_eq_filled_of_clear (.inl tagged) kind

/-- The tag of the one rule cannot make up a slot; the word of the other names all of them. -/
theorem render_eq_filled_wip :
    (Clear Slot.word.text "@wip" ∧
      (standard .duplicateTag).render .scenario (some "@wip") = "Scenario has a duplicate tag: @wip.".toList) ∧
    (¬ Slot.tag.text <:+: (standard .implementationWord).phrase ∧
      (standard .implementationWord).render .scenario (some "\x7btag\x7d\x7bword\x7d\x7bclass\x7d") =
        "Implementation word used: \x7btag\x7d\x7bword\x7d\x7bclass\x7d.".toList) := by
  have clear : Clear Slot.word.text "@wip" := by decide
  have tagless : ¬ Slot.tag.text <:+: (standard .implementationWord).phrase := by decide
  refine ⟨⟨clear, ?_⟩, tagless, ?_⟩
  · rw [(render_eq_filled .scenario "@wip").1 _ (.inr clear)]
    decide
  · rw [(render_eq_filled .scenario _).1 _ (.inl tagless)]
    decide

/-- A tag with the slot of the word in it is put into itself. -/
theorem render_word_in_tag :
    (standard .duplicateTag).render .feature (some "@\x7bword\x7d") =
      "Feature has a duplicate tag: @@\x7bword\x7d.".toList ∧
    (standard .duplicateTag).filled .feature "@\x7bword\x7d" =
      "Feature has a duplicate tag: @\x7bword\x7d.".toList := by
  decide

end Rule

end SuiteAudit
