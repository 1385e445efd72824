import Mathlib.Data.List.DropRight
import Mathlib.Data.List.Infix
import SuiteAudit.Config.Search
import SuiteAudit.Proofs.Text.Layout

/-!
# The nearest settings

The directories that are searched are the beginnings of a path, the longest first
(`SourcePath.ancestors_components`). The first of them whose settings file can be read and understood
decides. A file that is malformed counts as one that is not there, so the search goes on above it
(`Workspace.configFrom_nearest`, `Workspace.configFrom_above_malformed`).
-/

namespace SuiteAudit

/-! ## Directories above a path -/

/-- The beginnings of a path, the longest first. Nothing stands above the root. -/
def Component.levels (cs : List Component) : List (List Component) :=
  (cs.inits.filter fun above => above ≠ [] ∨ cs.head? ≠ some .root).reverse

theorem Component.levels_of_top {cs : List Component} (top : cs = [] ∨ cs = [.root]) :
    levels cs = [cs] := by
  rcases top with rfl | rfl <;> simp [levels]

theorem Component.levels_of_below {cs : List Component} (below : ¬(cs = [] ∨ cs = [.root])) :
    levels cs = cs :: levels cs.dropLast := by
  obtain ⟨above, c, rfl⟩ := (List.eq_nil_or_concat' cs).resolve_left fun none => below (.inl none)
  rw [List.dropLast_concat, levels, List.inits_append]
  cases above with
  | nil =>
      have other : c ≠ .root := fun root => below (.inr (by simp [root]))
      simp [levels, other]
  | cons a above =>
      rw [List.filter_append, List.reverse_append]
      simp [levels]

theorem Component.ofPiece?_ne_root {piece : Text} {c : Component} (found : ofPiece? piece = some c) :
    c ≠ .root := by
  rintro rfl
  unfold ofPiece? at found
  split at found
  · cases found
  · split at found <;> cases found

namespace SourcePath

/-- How the start of a path is written. -/
def startText : Option Component → Text
  | some .root => ['/']
  | some _ => ['.']
  | none => []

theorem cutStart_upTo {p : SourcePath} {start : Option Component} {rest t : Text}
    (cut : p.cutStart = (start, rest)) (upTo : t = [] ∨ ∃ after, rest = t ++ '/' :: after) :
    cutStart ⟨startText start ++ t⟩ = (start, t) := by
  unfold cutStart at cut
  split at cut
  · obtain ⟨rfl, rfl⟩ := Prod.mk.inj cut
    rfl
  · obtain ⟨rfl, rfl⟩ := Prod.mk.inj cut
    rcases upTo with rfl | ⟨after, whole⟩
    · rfl
    · simp at whole
  · obtain ⟨rfl, rfl⟩ := Prod.mk.inj cut
    rcases upTo with rfl | ⟨after, whole⟩
    · rfl
    · cases t with
      | nil => rfl
      | cons c t =>
          obtain ⟨rfl, -⟩ := List.cons.inj whole
          rfl
  · -- A beginning that ends before a slash starts with a slash or a dot only if the whole path does.
    rename_i noSlash noDot noDotSlash
    obtain ⟨rfl, rfl⟩ := Prod.mk.inj cut
    rcases upTo with rfl | ⟨after, whole⟩
    · rfl
    · simp only [startText, List.nil_append, cutStart]
      split
      · exact absurd whole (noSlash _)
      · exact absurd whole (noDotSlash _)
      · exact absurd whole (noDotSlash _)
      · rfl

theorem components_upTo {p : SourcePath} {start : Option Component} {rest : Text}
    (cut : p.cutStart = (start, rest)) {ps qs : List Text} (more : qs ≠ [])
    (pieces : Text.split '/' rest = ps ++ qs) :
    components ⟨startText start ++ Text.join ['/'] ps⟩ =
      start.toList ++ ps.filterMap Component.ofPiece? := by
  by_cases nonempty : ps = []
  · subst nonempty
    rw [components, Text.join, cutStart_upTo cut (.inl rfl)]
    rfl
  · have whole : rest = Text.join ['/'] ps ++ '/' :: Text.join ['/'] qs := by
      rw [← Text.join_split '/' rest, pieces, Text.join_append nonempty more]
      simp
    have solid : ∀ piece ∈ ps, '/' ∉ piece := fun piece member =>
      Text.not_mem_of_mem_split (by rw [pieces]; exact List.mem_append_left qs member)
    rw [components, cutStart_upTo cut (.inr ⟨_, whole⟩)]
    simp only [Text.split_join nonempty solid]

theorem dropTrailing_eq (ps : List Text) :
    dropTrailing ps = ps.rdropWhile fun p => (Component.ofPiece? p).isNone := rfl

theorem filterMap_dropTrailing (ps : List Text) :
    (dropTrailing ps).filterMap Component.ofPiece? = ps.filterMap Component.ofPiece? := by
  induction ps using List.reverseRecOn with
  | nil => rfl
  | append_singleton ps p ih =>
      rw [dropTrailing_eq, List.rdropWhile_concat]
      split
      · rename_i none
        rw [← dropTrailing_eq, ih, List.filterMap_append]
        simp [Option.isNone_iff_eq_none.mp none]
      · rfl

theorem dropTrailing_cases (ps : List Text) :
    (dropTrailing ps = [] ∧ ps.filterMap Component.ofPiece? = []) ∨
      ∃ before last c, dropTrailing ps = before ++ [last] ∧ Component.ofPiece? last = some c := by
  induction ps using List.reverseRecOn with
  | nil => exact .inl ⟨rfl, rfl⟩
  | append_singleton ps p ih =>
      cases found : Component.ofPiece? p with
      | none =>
          rw [dropTrailing_eq, List.rdropWhile_concat_pos _ _ _ (by simp [found]), ← dropTrailing_eq]
          simpa [found] using ih
      | some c =>
          refine .inr ⟨ps, p, c, ?_, found⟩
          rw [dropTrailing_eq, List.rdropWhile_concat_neg _ _ _ (by simp [found])]

theorem cutStart_cases (p : SourcePath) :
    p.cutStart.1 = none ∨ p.cutStart.1 = some .root ∨ p.cutStart.1 = some .here := by
  unfold cutStart
  split <;> simp

theorem dropTrailing_isPrefix (ps : List Text) : dropTrailing ps <+: ps :=
  List.rdropWhile_prefix _ _

theorem components_of_cut {p : SourcePath} {start : Option Component} {rest : Text}
    (cut : p.cutStart = (start, rest)) :
    p.components = start.toList ++ (Text.split '/' rest).filterMap Component.ofPiece? := by
  rw [components, cut]

theorem parent?_of_cut {p : SourcePath} {start : Option Component} {rest last : Text} {before : List Text}
    (cut : p.cutStart = (start, rest))
    (named : dropTrailing (Text.split '/' rest) = before ++ [last]) :
    p.parent? = some ⟨startText start ++ Text.join ['/'] (dropTrailing before)⟩ := by
  rw [parent?, cut]
  simp only
  split
  · rename_i none
    simp [named] at none
  · rw [named, List.dropLast_concat]
    rfl

theorem exists_parent {p : SourcePath} {start : Option Component} {rest last : Text} {before : List Text}
    {c : Component} (cut : p.cutStart = (start, rest))
    (named : dropTrailing (Text.split '/' rest) = before ++ [last])
    (found : Component.ofPiece? last = some c) :
    ∃ q, p.parent? = some q ∧ p.components = q.components ++ [c] := by
  refine ⟨_, parent?_of_cut cut named, ?_⟩
  -- What is left are the pieces before the last one that stands for a component.
  obtain ⟨between, left⟩ := dropTrailing_isPrefix before
  obtain ⟨trailing, all⟩ := dropTrailing_isPrefix (Text.split '/' rest)
  have pieces : Text.split '/' rest = dropTrailing before ++ (between ++ last :: trailing) := by
    rw [← List.append_assoc, left, ← all, named, List.append_assoc, List.singleton_append]
  rw [components_upTo cut (by simp) pieces, components_of_cut cut, ← filterMap_dropTrailing, named,
    filterMap_dropTrailing]
  simp [found]

/-- The last component is taken away, except from the empty path and from the root. -/
theorem parent?_components (p : SourcePath) :
    p.parent?.map components =
      if p.components = [] ∨ p.components = [.root] then none else some p.components.dropLast := by
  cases cut : p.cutStart with
  | mk start rest =>
      rcases dropTrailing_cases (Text.split '/' rest) with
        ⟨none, nothing⟩ | ⟨before, last, c, named, found⟩
      · rw [components_of_cut cut, nothing, List.append_nil, parent?, cut]
        simp only [none]
        rcases cutStart_cases p with kind | kind | kind <;> rw [cut] at kind <;> subst kind <;> rfl
      · obtain ⟨q, parent, below⟩ := exists_parent cut named found
        have inside : ¬(p.components = [] ∨ p.components = [.root]) := by
          simp [below, List.append_eq_singleton_iff, Component.ofPiece?_ne_root found]
        rw [if_neg inside, parent, below, List.dropLast_concat]
        rfl

theorem ancestors_components (count : Nat) (p : SourcePath) :
    (p.ancestors count).map components = (Component.levels p.components).take count := by
  induction count generalizing p with
  | zero => rfl
  | succ count ih =>
      have parent := p.parent?_components
      rw [ancestors]
      by_cases top : p.components = [] ∨ p.components = [.root]
      · rw [if_pos top, Option.map_eq_none_iff] at parent
        simp [Component.levels_of_top top, parent]
      · rw [if_neg top] at parent
        obtain ⟨q, found, above⟩ := Option.map_eq_some_iff.mp parent
        simp [Component.levels_of_below top, found, ih, above]

end SourcePath

/-! ## The search -/

namespace Workspace

/-- The settings file of a directory can be read and holds this text. -/
def SettingsText (w : Workspace) (dir : SourcePath) (t : Text) : Prop :=
  w.read (dir.join ⟨configFileName⟩) = .ok t

theorem settingsText_iff {w : Workspace} {dir : SourcePath} {t : Text} :
    w.SettingsText dir t ↔ (w.read (dir.join ⟨configFileName⟩)).toOption = some t := by
  unfold SettingsText
  cases w.read (dir.join ⟨configFileName⟩) <;> simp [Except.toOption]

instance (w : Workspace) (dir : SourcePath) (t : Text) : Decidable (w.SettingsText dir t) :=
  decidable_of_iff _ settingsText_iff.symm

/-- The settings file of a directory can be read and understood. -/
def HasSettings (w : Workspace) (dir : SourcePath) (c : Config) : Prop :=
  ∃ t, w.SettingsText dir t ∧ Config.ofText t = .ok c

/-- The settings of the first directory that has any, the defaults if none has. -/
def Decides (w : Workspace) (dirs : List SourcePath) (c : Config) : Prop :=
  (∃ nearer dir farther, dirs = nearer ++ dir :: farther ∧ w.HasSettings dir c ∧
      ∀ d ∈ nearer, ∀ c', ¬w.HasSettings d c') ∨
    ((∀ d ∈ dirs, ∀ c', ¬w.HasSettings d c') ∧ c = {})

/-- What the search finds in a directory. -/
def settings? (w : Workspace) (dir : SourcePath) : Option Config :=
  (w.configFile (dir.join ⟨configFileName⟩)).toOption

theorem configFrom_eq (w : Workspace) (start : SourcePath) :
    w.configFrom start = ((start.ancestors searchDepth).findSome? w.settings?).getD {} := rfl

theorem settings?_eq_some {w : Workspace} {dir : SourcePath} {c : Config} :
    w.settings? dir = some c ↔ w.HasSettings dir c := by
  unfold settings? configFile HasSettings SettingsText
  cases w.read (dir.join ⟨configFileName⟩) with
  | error fault => simp [Except.toOption]
  | ok t => cases understood : Config.ofText t <;> simp [Except.toOption, understood]

theorem settings?_eq_none {w : Workspace} {dir : SourcePath} :
    w.settings? dir = none ↔ ∀ c, ¬w.HasSettings dir c := by
  simp only [Option.eq_none_iff_forall_ne_some, ne_eq, settings?_eq_some]

theorem findSome?_settings?_eq_none {w : Workspace} {dirs : List SourcePath} :
    dirs.findSome? w.settings? = none ↔ ∀ d ∈ dirs, ∀ c, ¬w.HasSettings d c := by
  simp only [List.findSome?_eq_none_iff, settings?_eq_none]

theorem findSome?_settings?_eq_some {w : Workspace} {dirs : List SourcePath} {c : Config} :
    dirs.findSome? w.settings? = some c ↔
      ∃ nearer dir farther, dirs = nearer ++ dir :: farther ∧ w.HasSettings dir c ∧
        ∀ d ∈ nearer, ∀ c', ¬w.HasSettings d c' := by
  simp only [List.findSome?_eq_some_iff, settings?_eq_some, settings?_eq_none]

theorem decides_iff {w : Workspace} {dirs : List SourcePath} {c : Config} :
    w.Decides dirs c ↔ (dirs.findSome? w.settings?).getD {} = c := by
  rw [Decides, ← findSome?_settings?_eq_some, ← findSome?_settings?_eq_none]
  cases dirs.findSome? w.settings? with
  | none => simp [eq_comm]
  | some c' => simp

theorem decides_append {w : Workspace} {nearer dirs : List SourcePath} {c : Config}
    (nothing : ∀ d ∈ nearer, ∀ c, ¬w.HasSettings d c) :
    w.Decides (nearer ++ dirs) c ↔ w.Decides dirs c := by
  rw [decides_iff, decides_iff, List.findSome?_append, findSome?_settings?_eq_none.mpr nothing,
    Option.none_or]

theorem not_hasSettings_of_unread {w : Workspace} {dir : SourcePath} (unread : ∀ t, ¬w.SettingsText dir t)
    (c : Config) : ¬w.HasSettings dir c := fun ⟨t, held, _⟩ => unread t held

theorem not_hasSettings_of_malformed {w : Workspace} {dir : SourcePath} {t : Text} {e : ConfigError}
    (held : w.SettingsText dir t) (malformed : Config.ofText t = .error e) (c : Config) :
    ¬w.HasSettings dir c := by
  rintro ⟨t', held', understood⟩
  obtain rfl : t = t' := Except.ok.inj (held.symm.trans held')
  rw [malformed] at understood
  cases understood

/-- Of the directory and those above it, ten at most, the nearest with a settings file that can be read
decides if the file is understood. A malformed file decides nothing: the search goes on among the
directories farther away, and the defaults stand only if it finds nothing there. -/
theorem configFrom_nearest (w : Workspace) (start : SourcePath) :
    (start.ancestors searchDepth).map SourcePath.components =
        (Component.levels start.components).take 10 ∧
      (∀ c, w.configFrom start = c ↔ w.Decides (start.ancestors searchDepth) c) ∧
      ((∀ d ∈ start.ancestors searchDepth, ∀ t, ¬w.SettingsText d t) → w.configFrom start = {}) ∧
      ∀ nearer dir farther t, start.ancestors searchDepth = nearer ++ dir :: farther →
        (∀ d ∈ nearer, ∀ t', ¬w.SettingsText d t') → w.SettingsText dir t →
        (∀ c, Config.ofText t = .ok c → w.configFrom start = c) ∧
          ∀ e, Config.ofText t = .error e → ∀ c, w.configFrom start = c ↔ w.Decides farther c := by
  have decided (c : Config) : w.configFrom start = c ↔ w.Decides (start.ancestors searchDepth) c := by
    rw [configFrom_eq, decides_iff]
  refine ⟨SourcePath.ancestors_components searchDepth start, decided, fun unread => ?_,
    fun nearer dir farther t searched unread held => ⟨fun c understood => ?_, fun e malformed c => ?_⟩⟩
  · exact (decided {}).mpr (.inr ⟨fun d member => not_hasSettings_of_unread (unread d member), rfl⟩)
  · exact (decided c).mpr (.inl ⟨nearer, dir, farther, searched, ⟨t, held, understood⟩,
      fun d member => not_hasSettings_of_unread (unread d member)⟩)
  · have nothing : ∀ d ∈ nearer ++ [dir], ∀ c, ¬w.HasSettings d c := by
      intro d member
      rcases List.mem_append.mp member with near | last
      · exact not_hasSettings_of_unread (unread d near)
      · obtain rfl := List.mem_singleton.mp last
        exact not_hasSettings_of_malformed held malformed
    rw [decided, searched, ← List.singleton_append, ← List.append_assoc, decides_append nothing]

/-- Settings that are not closed. -/
def brokenSettings : Text := "thresholds = ["

/-- Settings with a threshold of their own. -/
def smallProject : Text := "[thresholds]\nproject = 5\n"

theorem brokenSettings_malformed : ∃ e, Config.ofText brokenSettings = .error e := by
  have refused : (Config.ofText brokenSettings).toOption.isNone = true := by decide +kernel
  cases read : Config.ofText brokenSettings with
  | error e => exact ⟨e, rfl⟩
  | ok c => simp [read, Except.toOption] at refused

theorem smallProject_understood :
    ∃ c, Config.ofText smallProject = .ok c ∧ c.thresholds.project = 5 := by
  have value : (Config.ofText smallProject).toOption.map (·.thresholds.project) = some 5 := by
    decide +kernel
  cases read : Config.ofText smallProject with
  | error e => simp [read, Except.toOption] at value
  | ok c => exact ⟨c, rfl, by simpa [read, Except.toOption] using value⟩

/-- Settings files from the root down: one that is understood, a directory of that name, bytes that are
no text, and one that is malformed. -/
def layered : Workspace where
  tree := .directory [(configFileName, .file (.text smallProject)),
    ("a", .directory [(configFileName, .empty),
      ("b", .directory [(configFileName, .file (.bytes [0xff])),
        ("c", .directory [(configFileName, .file (.text brokenSettings)), ("d", .empty)])])])]

/-- The lowest directory, written with more slashes and dots than needed. -/
def lowest : SourcePath := ⟨"/a/b//c/./d/"⟩

theorem configFrom_nearest_layered :
    lowest.ancestors searchDepth = [lowest] ++ ⟨"/a/b//c"⟩ :: [⟨"/a/b"⟩, ⟨"/a"⟩, ⟨"/"⟩] ∧
      layered.SettingsText ⟨"/a/b//c"⟩ brokenSettings ∧
      (layered.configFrom lowest).thresholds.project = 5 := by
  have searched : lowest.ancestors searchDepth =
      [lowest] ++ ⟨"/a/b//c"⟩ :: [⟨"/a/b"⟩, ⟨"/a"⟩, ⟨"/"⟩] := by decide +kernel
  have held : layered.SettingsText ⟨"/a/b//c"⟩ brokenSettings := by decide +kernel
  have unread : ∀ d ∈ [lowest, ⟨"/a/b"⟩, ⟨"/a"⟩], ∀ t, ¬layered.SettingsText d t := by
    have none : ∀ d ∈ [lowest, ⟨"/a/b"⟩, ⟨"/a"⟩],
        (layered.read (d.join ⟨configFileName⟩)).toOption = none := by decide +kernel
    intro d member t some
    rw [settingsText_iff, none d member] at some
    cases some
  obtain ⟨e, malformed⟩ := brokenSettings_malformed
  obtain ⟨c, understood, project⟩ := smallProject_understood
  have above : layered.Decides [⟨"/a/b"⟩, ⟨"/a"⟩, ⟨"/"⟩] c :=
    .inl ⟨[⟨"/a/b"⟩, ⟨"/a"⟩], ⟨"/"⟩, [], rfl, ⟨smallProject, by decide +kernel, understood⟩,
      fun d member => not_hasSettings_of_unread (unread d (List.mem_cons_of_mem lowest member))⟩
  have settings := ((configFrom_nearest layered lowest).2.2.2 _ _ _ _ searched
    (fun d member => unread d (List.mem_append_left _ member)) held).2 e malformed c
  exact ⟨searched, held, by rw [settings.mpr above, project]⟩

/-- A malformed settings file below one that is understood. -/
def shadowed : Workspace where
  tree := .directory [(configFileName, .file (.text smallProject)),
    ("x", .directory [(configFileName, .file (.text brokenSettings))])]

/-- The nearest settings file is malformed, and the defaults do not stand. -/
theorem configFrom_above_malformed :
    (SourcePath.ancestors searchDepth ⟨"x"⟩).head? = some ⟨"x"⟩ ∧
      shadowed.SettingsText ⟨"x"⟩ brokenSettings ∧ (∀ c, Config.ofText brokenSettings ≠ .ok c) ∧
      shadowed.configFrom ⟨"x"⟩ ≠ {} := by
  refine ⟨rfl, by decide +kernel, fun c understood => ?_, fun defaults => ?_⟩
  · obtain ⟨e, malformed⟩ := brokenSettings_malformed
    rw [malformed] at understood
    cases understood
  · have project : (shadowed.configFrom ⟨"x"⟩).thresholds.project = 5 := by decide +kernel
    rw [defaults] at project
    cases project

end Workspace

end SuiteAudit
