import SuiteAudit.Proofs.Regex.Reading
import SuiteAudit.Proofs.Rule.Independence

/-!
# Which settings make sense

Settings are laid over the standard rules. They can disable rules and take their targets away, but a condition that a
rule needs stays, so all that can be wrong with them is that no rule is left or that one of those left judges nothing
(`error?_eq_some`). The words to look for never matter: the text of each can be read (`ofText?_wordText`).
-/

namespace SuiteAudit

/-! ## Words between boundaries -/

namespace Regex

/-- The text of the expression that finds a word in any case. -/
def wordText (w : Text) : Text := ['(', '?', 'i', ')', '\\', 'b'] ++ (escape w ++ ['\\', 'b'])

theorem head?_escape_append (w : Text) {rest : Text} (plain : rest.head? ≠ some '\x7b') :
    (escape w ++ rest).head? ≠ some '\x7b' := by
  cases w with
  | nil => exact plain
  | cons c w =>
      rw [escape, List.flatMap_cons]
      split
      case isTrue => simp
      case isFalse other =>
        rintro ⟨⟩
        exact other rfl

/-- A boundary is read as one if no brace behind it names another kind. -/
theorem read_boundary {f : Flags} (unicode : f.unicode = true) {rest : Text} (plain : rest.head? ≠ some '\x7b')
    (n : Nat) (branches : List Regex) (items : List Item) (outer : List Level) (names : List Text) :
    read (n + 1) ⟨⟨f, branches, items⟩, outer, names⟩ ('\\' :: 'b' :: rest) =
      read n ⟨⟨f, branches, .expr (.place (.wordBoundary false)) :: items⟩, outer, names⟩ rest := by
  have boundary : readBoundary f rest = some (.assertion (.wordBoundary false), rest) := by
    unfold readBoundary
    split
    · exact absurd rfl plain
    · rw [unicode]
      rfl
  rw [read, Flags.next_cons fun _ => by decide]
  change (readBoundary f rest).bind _ = _
  rw [boundary]
  rfl

theorem ofText?_wordText (w : Text) :
    ∃ r, ofText? (wordText w) = some r ∧ ∀ s, r.isMatch s =
      (seq (place (.wordBoundary false)) (seq (caselessLiteral w) (place (.wordBoundary false)))).isMatch s := by
  let boundary := place (.wordBoundary false)
  let f : Flags := { caseless := true }
  let letters : List Regex := w.map fun c => char (f.fold (.single c))
  have directive (n : Nat) (rest : Text) : read (n + 1) ⟨⟨{}, [], []⟩, [], []⟩ ('(' :: '?' :: 'i' :: ')' :: rest) =
      read n ⟨⟨f, [], [.directive]⟩, [], []⟩ rest := rfl
  obtain ⟨m, enough, inner⟩ := (reads_escape (f := f) rfl rfl w).steps 7 [] [.expr boundary, .directive] [] []
    ['\\', 'b'] (by decide)
  obtain ⟨k, rfl⟩ := Nat.exists_eq_add_of_le' enough
  refine ⟨seqs (boundary :: (letters ++ [boundary])), ?_, fun s => ?_⟩
  · have fuel : (wordText w).length + 1 = 7 + (escape w).length + 1 + 1 := by
      simp only [wordText, List.length_append, List.length_cons, List.length_nil]
      omega
    have split : wordText w = '(' :: '?' :: 'i' :: ')' :: '\\' :: 'b' :: (escape w ++ ['\\', 'b']) := rfl
    have last (items : List Item) : read (k + 7) ⟨⟨f, [], items⟩, [], []⟩ ['\\', 'b'] =
        some (sequence (.expr boundary :: items)) := rfl
    have order : .expr boundary :: ((letters.map Item.expr).reverse ++ [.expr boundary, .directive]) =
        ((boundary :: (letters ++ [boundary])).map Item.expr).reverse ++ [.directive] := by simp
    rw [ofText?, fuel, split, directive, read_boundary rfl (head?_escape_append w (by decide)), inner, last, order,
      sequence_append_directive, sequence_reverse]
  · rw [Bool.eq_iff_iff]
    refine isMatch_congr (fun before m after => ?_) s
    rw [seqs_cons]
    simp only [matches_seq, matches_seqs_append, matches_seqs_singleton]
    rfl

end Regex

/-! ## The rules in their order -/

namespace RuleId

theorem mem_all (id : RuleId) : id ∈ all := by cases id <;> decide

theorem mem_of_order_lt {before after : List RuleId} {id other : RuleId} (split : all = before ++ id :: after)
    (less : order other id = .lt) : other ∈ before := by
  rw [order, Nat.compare_eq_lt, split, List.idxOf_append, List.idxOf_append] at less
  by_contra outside
  rw [if_neg outside, List.idxOf_cons_self] at less
  split at less
  case isTrue inside =>
    have := List.idxOf_lt_length_of_mem inside
    omega
  case isFalse => omega

end RuleId

/-- Every rule is enabled, judges something and has the conditions that it needs. -/
theorem Rule.standard_sound (id : RuleId) :
    (standard id).enabled = true ∧ (standard id).targets ≠ [] ∧
      ∀ name ∈ id.requiredConditions, ((standard id).condition? name).isSome = true := by
  cases id <;> decide

namespace RuleTable

/-- Each rule has the conditions that it needs. -/
def HasConditions (table : RuleTable) : Prop :=
  ∀ id, ∀ name ∈ id.requiredConditions, ((table id).condition? name).isSome = true

theorem override_of_lookup_none {o : Sorted RuleId RuleOverride} {id : RuleId} (unmentioned : o.lookup id = none)
    (table : RuleTable) : table.override o id = table id := by
  simp only [override, unmentioned]

theorem HasConditions.override {table : RuleTable} (has : table.HasConditions) (o : Sorted RuleId RuleOverride) :
    (table.override o).HasConditions := by
  intro id name needed
  unfold RuleTable.override
  cases o.lookup id with
  | none => exact has id name needed
  | some changes => exact Sorted.isSome_get?_insertAll (has id name needed) _

theorem override_standard_enabled (o : Sorted RuleId RuleOverride) (id : RuleId) :
    (RuleTable.override Rule.standard o id).enabled = true ↔ (o.lookup id).bind RuleOverride.enabled ≠ some false := by
  have standard := (Rule.standard_sound id).1
  unfold RuleTable.override
  cases o.lookup id with
  | none => simp [standard]
  | some changes => cases enabled : changes.enabled <;> simp [Rule.override, enabled, standard]

theorem override_standard_targets (o : Sorted RuleId RuleOverride) (id : RuleId) :
    (RuleTable.override Rule.standard o id).targets = [] ↔ (o.lookup id).bind RuleOverride.targets = some [] := by
  have standard := (Rule.standard_sound id).2.1
  unfold RuleTable.override
  cases o.lookup id with
  | none => simp [standard]
  | some changes => cases targets : changes.targets <;> simp [Rule.override, targets, standard]

/-! ## Faults -/

/-- The rule is enabled and judges nothing, and no rule before it is like that. -/
def FirstUntargeted (table : RuleTable) (id : RuleId) : Prop :=
  (table id).enabled = true ∧ (table id).targets = [] ∧
    ∀ other, RuleId.order other id = .lt → (table other).enabled = true → (table other).targets ≠ []

variable {table : RuleTable}

theorem enabled_eq_nil : table.enabled = [] ↔ ∀ id, (table id).enabled = false := by
  simp [enabled, List.filter_eq_nil_iff, RuleId.mem_all]

theorem ruleError?_of_conditions (has : table.HasConditions) (id : RuleId) :
    table.ruleError? id =
      if (table id).enabled = true ∧ (table id).targets = [] then some (.noTargets id) else none := by
  have present : id.requiredConditions.find? (fun name => ((table id).condition? name).isNone) = none := by
    rw [List.find?_eq_none]
    intro name needed missing
    rw [Option.isNone_iff_eq_none] at missing
    simpa [missing] using has id name needed
  rw [ruleError?, present, Option.map_none]
  cases (table id).enabled <;> cases (table id).targets <;> rfl

theorem error?_eq_none_iff (has : table.HasConditions) :
    table.error? = none ↔
      (∃ id, (table id).enabled = true) ∧ ∀ id, (table id).enabled = true → (table id).targets ≠ [] := by
  have some_enabled : (∃ id, (table id).enabled = true) ↔ table.enabled ≠ [] := by
    rw [Ne, enabled_eq_nil, not_forall]
    simp
  have targeted : RuleId.all.findSome? table.ruleError? = none ↔
      ∀ id, (table id).enabled = true → (table id).targets ≠ [] := by
    simp [ruleError?_of_conditions has, RuleId.mem_all]
  rw [some_enabled, ← targeted, error?]
  cases enabled : table.enabled <;> simp

theorem error?_eq_some (has : table.HasConditions) {e : ConfigError} (wrong : table.error? = some e) :
    (∀ id, (table id).enabled = false) ∧ e = .noRules ∨ ∃ id, table.FirstUntargeted id ∧ e = .noTargets id := by
  unfold error? at wrong
  split at wrong
  case isTrue none =>
    left
    exact ⟨enabled_eq_nil.mp (List.isEmpty_iff.mp none), (Option.some.inj wrong).symm⟩
  case isFalse =>
    right
    obtain ⟨before, id, after, split, here, earlier⟩ := List.findSome?_eq_some_iff.mp wrong
    rw [ruleError?_of_conditions has] at here
    split at here
    case isFalse => cases here
    case isTrue fault =>
      refine ⟨id, ⟨fault.1, fault.2, fun other less enabled targets => ?_⟩, (Option.some.inj here).symm⟩
      have silent := earlier other (RuleId.mem_of_order_lt split less)
      rw [ruleError?_of_conditions has, if_pos ⟨enabled, targets⟩] at silent
      cases silent

theorem criteria?_eq_error {e : ConfigError} (wrong : table.criteria? = .error e) : table.error? = some e := by
  unfold criteria? at wrong
  split at wrong
  · cases wrong
    assumption
  · cases wrong

theorem mem_stepWords {entry : Text × Regex} (member : entry ∈ table.stepWords) :
    entry.2 = .seq (.place (.wordBoundary false))
      (.seq (Regex.caselessLiteral entry.1) (.place (.wordBoundary false))) := by
  simp only [stepWords] at member
  split at member
  · obtain ⟨w, -, rfl⟩ := List.mem_map.mp member
    rfl
  · cases member

theorem stepWords_words : table.stepWords.map Prod.fst =
    if (table .implementationWord).enabled then (table .implementationWord).words else [] := by
  simp only [stepWords]
  split
  · rw [List.map_map]
    exact List.map_id _
  · rfl

/-- Settings are accepted if they leave a rule enabled and every rule that they leave enabled judges something. If
not, the error says that no rule is enabled, or it names the first rule that is enabled and judges nothing. No rule
loses a condition that it needs, the text for each word in use is read as what is looked for, and the rules that are
not mentioned are the standard ones. -/
theorem criteria?_override_standard (o : Sorted RuleId RuleOverride) :
    let table := RuleTable.override Rule.standard o
    (∀ id, ((table id).enabled = true ↔ (o.lookup id).bind RuleOverride.enabled ≠ some false) ∧
      ((table id).targets = [] ↔ (o.lookup id).bind RuleOverride.targets = some [])) ∧
    ((∃ c, table.criteria? = .ok c) ↔
      (∃ id, (table id).enabled = true) ∧ ∀ id, (table id).enabled = true → (table id).targets ≠ []) ∧
    (∀ e, table.criteria? = .error e →
      ((∀ id, (table id).enabled = false) ∧ e = .noRules ∧
        e.message = "Configuration error: no rules are enabled".toList) ∨
      ∃ id, table.FirstUntargeted id ∧ e = .noTargets id ∧
        e.message = "Configuration error: rule `".toList ++ id.text ++ "` is enabled but has no targets".toList) ∧
    table.HasConditions ∧
    (∀ c, table.criteria? = .ok c →
      (c.words.map Prod.fst = if (table .implementationWord).enabled then (table .implementationWord).words else []) ∧
      ∀ entry ∈ c.words, ∃ r, Regex.ofText? (Regex.wordText entry.1) = some r ∧
        ∀ s, r.isMatch s = entry.2.isMatch s) ∧
    ∀ id, o.lookup id = none → table id = Rule.standard id := by
  intro table
  have has : table.HasConditions := HasConditions.override (fun id => (Rule.standard_sound id).2.2) o
  refine ⟨fun id => ⟨override_standard_enabled o id, override_standard_targets o id⟩, ?_, ?_, has, ?_, ?_⟩
  · rw [← error?_eq_none_iff has]
    constructor
    · rintro ⟨c, valid⟩
      unfold criteria? at valid
      split at valid
      · cases valid
      · assumption
    · intro sound
      exact ⟨_, criteria?_of_error? sound⟩
  · intro e wrong
    rcases error?_eq_some has (criteria?_eq_error wrong) with ⟨none, rfl⟩ | ⟨id, first, rfl⟩
    · exact .inl ⟨none, rfl, rfl⟩
    · exact .inr ⟨id, first, rfl, rfl⟩
  · intro c valid
    rw [criteria?_eq_ok valid]
    refine ⟨stepWords_words, fun entry member => ?_⟩
    rw [mem_stepWords member]
    exact Regex.ofText?_wordText entry.1
  · intro id unmentioned
    exact override_of_lookup_none unmentioned Rule.standard

theorem criteria?_override_standard_untargeted :
    (RuleTable.override Rule.standard [(.noCode, { targets := some [] })]).criteria? = .error (.noTargets .noCode) := by
  obtain ⟨fields, valid, wrong, -⟩ := criteria?_override_standard [(.noCode, { targets := some [] })]
  have enabled := (fields .noCode).1.mpr (by decide)
  cases result : (RuleTable.override Rule.standard [(.noCode, { targets := some [] })]).criteria? with
  | ok c => exact absurd ((fields .noCode).2.mpr rfl) ((valid.mp ⟨c, result⟩).2 .noCode enabled)
  | error e =>
      rcases wrong e result with ⟨none, -⟩ | ⟨id, first, rfl, -⟩
      · rw [none] at enabled
        cases enabled
      · have emptied := (fields id).2.mp first.2.1
        have same : id = .noCode := by
          revert emptied
          cases id <;> decide
        rw [same]

end RuleTable

end SuiteAudit
