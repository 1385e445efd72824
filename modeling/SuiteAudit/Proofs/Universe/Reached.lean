import SuiteAudit.Proofs.StepFile.Reach
import SuiteAudit.Proofs.Suite.Growth
import SuiteAudit.Proofs.Text.Replace
import SuiteAudit.Proofs.Text.Trim

/-!
# Definitions reached by interpolated calls

A definition with a quoted expression that has no parameters is alive if some call can become its text: by matching
it if the call has no interpolations, else by the pattern of the call (`catalog_alive_of_replaced`). What a call says
is taken without its keyword and the white space around it, and a character of the expression that looks like an
anchor is dropped before the pattern of a call is tried, so texts that rely on these are not found
(`catalog_dead_stripped`).
-/

namespace SuiteAudit

open Text Piece

theorem unanchored_eq_self {e : Text} (unescaped : '\\' ∉ e) (start : e.head? ≠ some '^')
    (stop : e.getLast? ≠ some '$') : unanchored e = e := by
  have first : afterAny? ["\\A", "^"] e = none := by
    rw [afterAny?, List.findSome?_eq_none_iff]
    intro head member
    rw [Option.map_eq_none_iff, Option.eq_none_iff_forall_ne_some]
    intro rest found
    have whole := after?_eq_some.mp found
    rcases List.mem_pair.mp member with rfl | rfl
    · exact unescaped (by simp [whole])
    · exact start (by simp [whole])
  have last : (["\\z", "\\Z", "$"].findSome? fun (anchor : String) => before? anchor e) = none := by
    rw [List.findSome?_eq_none_iff]
    intro tail member
    rw [Option.eq_none_iff_forall_ne_some]
    intro rest found
    have whole := before?_eq_some.mp found
    simp only [List.mem_cons, List.not_mem_nil, or_false] at member
    rcases member with rfl | rfl | rfl
    · exact unescaped (by simp [whole])
    · exact unescaped (by simp [whole])
    · exact stop (by simp [whole])
  rw [unanchored, first]
  exact congrArg (Option.getD · e) last

namespace StepDefinition

theorem source_of_quoted (file : SourcePath) (b : Block) {declaration : StepDeclaration} {q : Char} {e : Text}
    (declared : declaration.source = .quoted q e) (unescaped : '\\' ∉ e) :
    (ofBlock file declaration b).source = e ∧ (ofBlock file declaration b).pattern = Pattern.ofExpression e := by
  have text : (StepSource.quoted q e).text = e := by
    have first : Text.replace "\\\"" "\"" e = e := replace_of_not_mem unescaped _ _
    have second : Text.replace "\\'" "'" e = e := replace_of_not_mem unescaped _ _
    rw [StepSource.text, first, second]
  rw [ofBlock, declared, StepSource.pattern, text]
  exact ⟨rfl, rfl⟩

/-- A call that can become the text of the definition reaches it. -/
theorem reached_of_replaced (file : SourcePath) (b : Block) {declaration : StepDeclaration} {q : Char} {e : Text}
    (declared : declaration.source = .quoted q e) (braceless : '\x7b' ∉ e) (unescaped : '\\' ∉ e) {c : Text}
    (replaced : Replaced (Line.stepText c) e)
    (bare : Uninterpolated (Line.stepText c) ∨ e.head? ≠ some '^' ∧ e.getLast? ≠ some '$') :
    (ofBlock file declaration b).isMatch c = true ∨ (ofBlock file declaration b).MayReach c := by
  obtain ⟨source, pattern⟩ := source_of_quoted file b declared unescaped
  cases found : reachPattern? c with
  | none =>
      left
      have plain := (reachPattern?_eq_none_iff c).mp found
      rw [isMatch, pattern, (Pattern.decides_ofExpression e).isMatch_iff]
      exact (Pattern.instance_of_braceless braceless).mpr (replaced.eq_of_uninterpolated plain).symm
  | some p =>
      right
      refine ⟨p, found, ?_⟩
      have interpolated : ¬Uninterpolated (Line.stepText c) := by
        rw [← reachPattern?_eq_none_iff, found]
        simp
      obtain ⟨start, stop⟩ := bare.resolve_left interpolated
      rw [source, unanchored_eq_self unescaped start stop]
      exact ((decides_of_reachPattern? found).isMatch_iff e).mpr replaced

theorem catalog_ne_nil {u : Universe} {d : StepDefinition}
    (fresh : d.calls = []) {l : StepLocation} {c : Text} (recorded : (l, c) ∈ u)
    (reached : d.isMatch c = true ∨ d.MayReach c) : (d.catalog u).calls ≠ [] := by
  intro none
  have dead : (d.catalog u).isDead = true := List.isEmpty_iff.mpr none
  obtain ⟨unmatched, unreached⟩ := (isDead_catalog fresh).mp dead _ recorded
  rcases reached with hit | reach
  · rw [unmatched] at hit
    cases hit
  · exact unreached reach

/-- A definition whose quoted expression has neither parameters nor backslashes is alive if a recorded call can
become the expression: what the call says, without its keyword and the white space around it, is the expression once
its interpolations are replaced. If there are interpolations, the expression must not start or end in a character
that looks like an anchor. Every nested call of a suite is recorded if its files have different paths. -/
theorem catalog_alive_of_replaced (file : SourcePath) (b : Block) {declaration : StepDeclaration} {q : Char}
    {e : Text} (declared : declaration.source = .quoted q e) (braceless : '\x7b' ∉ e)
    (unescaped : '\\' ∉ e) {c : Text} (replaced : Replaced (Line.stepText c) e)
    (bare : Uninterpolated (Line.stepText c) ∨ e.head? ≠ some '^' ∧ e.getLast? ≠ some '$') :
    (∀ features definitions l, (l, c) ∈ Universe.build features definitions →
        ((ofBlock file declaration b).catalog (Universe.build features definitions)).calls ≠ []) ∧
      ∀ featureFiles stepFiles, Universe.DistinctPaths (featureFiles ++ stepFiles) →
        ∀ caller ∈ (Suite.ofFiles featureFiles stepFiles).definitions, ∀ l, (l, c) ∈ caller.nested →
          ((ofBlock file declaration b).catalog (Suite.ofFiles featureFiles stepFiles).steps).calls ≠ [] := by
  have reached := reached_of_replaced file b declared braceless unescaped replaced bare
  have alive (features : List Feature) (definitions : List StepDefinition) (l : StepLocation)
      (recorded : (l, c) ∈ Universe.build features definitions) :
      ((ofBlock file declaration b).catalog (Universe.build features definitions)).calls ≠ [] :=
    catalog_ne_nil rfl recorded reached
  refine ⟨alive, ?_⟩
  intro featureFiles stepFiles paths caller member l called
  apply alive _ _ ⟨l, none⟩
  refine (Universe.build_perm (Universe.callsOf_ofFiles_distinct paths)).mem_iff.mpr ?_
  apply List.mem_append_right
  exact List.mem_flatMap.mpr ⟨caller, member, List.mem_map.mpr ⟨(l, c), called, rfl⟩⟩

/-- A definition that is called with a price, given by an interpolation with braces of its own. -/
def payingSteps : SourceFile where
  path := ⟨"pay.rb"⟩
  text := "Given 'it costs 5 $ (net)' do\nend\nWhen 'I pay' do\nstep 'it costs #\x7bf(\x7ba: 1\x7d)\x7d (net)'\nend"

def price : StepDeclaration := ⟨"Given", .quoted '\'' "it costs 5 $ (net)", ⟨.word, none, false, none⟩⟩

def priced : Text := "it costs #\x7bf(\x7ba: 1\x7d)\x7d (net)"

theorem catalog_alive_of_replaced_priced :
    ⟨.step price, 1, []⟩ ∈ Block.ofText payingSteps.text ∧
      '\x7b' ∉ ("it costs 5 $ (net)" : Text) ∧ '\\' ∉ ("it costs 5 $ (net)" : Text) ∧
      Replaced (Line.stepText priced) "it costs 5 $ (net)" ∧
      Universe.DistinctPaths ([] ++ [payingSteps]) ∧
      (∃ caller ∈ (Suite.ofFiles [] [payingSteps]).definitions, ∃ call ∈ caller.nested, call.2 = priced) ∧
      ((ofBlock payingSteps.path price ⟨.step price, 1, []⟩).catalog
        (Suite.ofFiles [] [payingSteps]).steps).calls ≠ [] := by
  have block : ⟨.step price, 1, []⟩ ∈ Block.ofText payingSteps.text := by decide +kernel
  have braceless : '\x7b' ∉ ("it costs 5 $ (net)" : Text) := by decide +kernel
  have unescaped : '\\' ∉ ("it costs 5 $ (net)" : Text) := by decide +kernel
  have text : Line.stepText priced = priced := by decide +kernel
  have inner : Nested "f(\x7ba: 1\x7d)" :=
    .char (by decide) (.char (by decide) (@Nested.group "a: 1" ")"
      (nested_of_plain (by simp)) (nested_of_plain (by simp))))
  have replaced : Replaced (Line.stepText priced) "it costs 5 $ (net)" := by
    rw [text]
    exact replaced_once "it costs " "5 $" " (net)" (by decide) inner (by decide) (by decide)
  have bare : ("it costs 5 $ (net)" : Text).head? ≠ some '^' ∧
      ("it costs 5 $ (net)" : Text).getLast? ≠ some '$' := by decide +kernel
  have paths : Universe.DistinctPaths ([] ++ [payingSteps]) := by decide
  have called : ∃ caller ∈ (Suite.ofFiles [] [payingSteps]).definitions,
      ∃ call ∈ caller.nested, call.2 = priced := by decide +kernel
  refine ⟨block, braceless, unescaped, replaced, paths, called, ?_⟩
  obtain ⟨caller, member, ⟨l, c⟩, call, rfl⟩ := called
  have declared : price.source = .quoted '\'' "it costs 5 $ (net)" := rfl
  exact (catalog_alive_of_replaced payingSteps.path _ declared braceless unescaped replaced (.inr bare)).2
    [] [payingSteps] paths caller member l call

/-- The definition is dead, although a nested call can become its text. -/
structure Missed (file : SourceFile) (e c : Text) : Prop where
  literal : '\x7b' ∉ e ∧ '\x7d' ∉ e ∧ '\\' ∉ e
  replaced : Replaced c e
  called : ∃ l, (l, c) ∈ Universe.build [] (ofText file.path file.text)
  dead : ∃ b ∈ Block.ofText file.text, ∃ declaration q, b.declaration = .step declaration ∧
    declaration.source = .quoted q e ∧
      ((ofBlock file.path declaration b).catalog (Universe.build [] (ofText file.path file.text))).calls = []

/-- Calls that lose a second keyword or white space, and definitions that lose a character like an anchor. -/
def strippedSteps : SourceFile where
  path := ⟨"go.rb"⟩
  text := "Given 'Then go 5' do\nend\nGiven ' run 5' do\nend\nGiven '^is 5' do\nend\nGiven 'has 5$' do\nend\n" ++
    "When 'I go' do\nstep 'Given Then go #\x7bn\x7d'\nstep ' run #\x7bn\x7d'\nstep '^is #\x7bn\x7d'\nstep 'has #\x7bn\x7d$'\nend"

def quotedBlock (keyword e : Text) (line : Nat) (body : List Text) : Block :=
  ⟨.step ⟨keyword, .quoted '\'' e, ⟨.word, none, false, none⟩⟩, line, body⟩

theorem strippedSteps_blocks : Block.ofText strippedSteps.text =
    [quotedBlock "Given" "Then go 5" 1 [], quotedBlock "Given" " run 5" 3 [], quotedBlock "Given" "^is 5" 5 [],
      quotedBlock "Given" "has 5$" 7 [], quotedBlock "When" "I go" 9 ["step 'Given Then go #\x7bn\x7d'",
        "step ' run #\x7bn\x7d'", "step '^is #\x7bn\x7d'", "step 'has #\x7bn\x7d$'"]] := by decide +kernel

def strippedCalls : Universe where
  calls :=
    [(⟨⟨⟨"go.rb"⟩, 10⟩, none⟩, "Then go #\x7bn\x7d"), (⟨⟨⟨"go.rb"⟩, 11⟩, none⟩, " run #\x7bn\x7d"),
     (⟨⟨⟨"go.rb"⟩, 12⟩, none⟩, "^is #\x7bn\x7d"), (⟨⟨⟨"go.rb"⟩, 13⟩, none⟩, "has #\x7bn\x7d$")]
  ordered := by decide +kernel

theorem strippedSteps_calls :
    Universe.build [] (ofText strippedSteps.path strippedSteps.text) = strippedCalls := by
  rw [ofText, strippedSteps_blocks]
  decide +kernel

theorem missed_stripped (before rest : Text) (line : Nat) {e : Text} (whole : e = before ++ ('5' :: rest))
    (unmarked : ¬['#', '\x7b'] <:+: before) (last : (Piece.split rest).any isInterpolation = false)
    (literal : '\x7b' ∉ e ∧ '\x7d' ∉ e ∧ '\\' ∉ e)
    (called : before ++ '#' :: '\x7b' :: 'n' :: '\x7d' :: rest ∈ strippedCalls.calls.map Prod.snd)
    (block : quotedBlock "Given" e line [] ∈ Block.ofText strippedSteps.text)
    (dead : ((ofBlock strippedSteps.path ⟨"Given", .quoted '\'' e, ⟨.word, none, false, none⟩⟩
      (quotedBlock "Given" e line [])).catalog strippedCalls).calls = []) :
    Missed strippedSteps e (before ++ '#' :: '\x7b' :: 'n' :: '\x7d' :: rest) where
  literal := literal
  replaced := by
    rw [whole]
    have inner : Nested ['n'] := nested_of_plain (by simp)
    exact replaced_once before ['5'] rest unmarked inner (by decide) last
  called := by
    obtain ⟨⟨l, c⟩, member, rfl⟩ := List.mem_map.mp called
    exact ⟨l, strippedSteps_calls ▸ member⟩
  dead := ⟨_, block, _, _, rfl, rfl, strippedSteps_calls ▸ dead⟩

/-- What a call says is read without a keyword and the white space around it, and the text of a definition without a
character like an anchor at either end. -/
theorem catalog_dead_stripped :
    Missed strippedSteps "Then go 5" "Then go #\x7bn\x7d" ∧ Missed strippedSteps " run 5" " run #\x7bn\x7d" ∧
      Missed strippedSteps "^is 5" "^is #\x7bn\x7d" ∧ Missed strippedSteps "has 5$" "has #\x7bn\x7d$" := by
  refine ⟨missed_stripped "Then go " [] 1 rfl ?_ ?_ ?_ ?_ (by simp [strippedSteps_blocks]) ?_,
    missed_stripped " run " [] 3 rfl ?_ ?_ ?_ ?_ (by simp [strippedSteps_blocks]) ?_,
    missed_stripped "^is " [] 5 rfl ?_ ?_ ?_ ?_ (by simp [strippedSteps_blocks]) ?_,
    missed_stripped "has " "$" 7 rfl ?_ ?_ ?_ ?_ (by simp [strippedSteps_blocks]) ?_⟩ <;> decide +kernel

end StepDefinition

end SuiteAudit
