import FluentStyle.CommandLine.Run
import FluentStyle.Proofs.Path.Place
import FluentStyle.Proofs.Path.Spelling
import Mathlib.Data.Set.Card

/-!
# Files that are checked

Paths may stand for the same file.  Of the paths that were found each spelling is checked once, so a
file is checked once just if it was found under one spelling.
-/

namespace FluentStyle

open FluentStyle.Path

namespace Directory

def HasNames (directory : Directory) : Prop :=
  ∀ file ∈ directory.files, ∀ name ∈ file.1, IsName name

theorem names_of_mem_filesBelow {directory : Directory} (h : directory.HasNames)
    {place names : List String} (hmem : names ∈ directory.filesBelow place) :
    names ≠ [] ∧ ∀ name ∈ names, IsName name := by
  have hbelow := List.mem_of_mem_filter hmem
  rcases List.mem_filterMap.mp hbelow with ⟨⟨full, text⟩, hfile, hsome⟩
  simp only at hsome
  split at hsome
  · rename_i hlonger
    cases hsome
    rw [Bool.and_eq_true, decide_eq_true_eq] at hlonger
    refine ⟨?_, fun name hname => h _ hfile name (List.mem_of_mem_drop hname)⟩
    rw [ne_eq, List.drop_eq_nil_iff]
    exact Nat.not_le.mpr hlonger.2
  · cases hsome

end Directory

namespace Surroundings

variable (around : Surroundings) (pattern : Wildcard) (paths : List String)

def wanted : List String :=
  if paths.isEmpty then ["."] else paths

/-- The path is of a file that one of the paths stands for. -/
structure Finds (path : String) : Prop where
  isNamed : ∃ argument ∈ wanted paths, ∃ files : List String,
    around.filesOf pattern argument = .ok files ∧ path ∈ files
  isFile : ∃ text : String, around.look path = .file text

def isFile (path : String) : Bool :=
  match around.look path with
  | .file _ => true
  | .missing | .blocked | .folder => false

def foundPlaces : Set (List String) :=
  {place | ∃ path, around.Finds pattern paths path ∧ around.place path = place}

/-- No file is found under two spellings. -/
def SpelledOnce : Prop :=
  ∀ first second : String, around.Finds pattern paths first → around.Finds pattern paths second →
    around.place first = around.place second → steps first = steps second

variable {around pattern paths}

theorem isFile_iff {path : String} :
    around.isFile path = true ↔ ∃ text, around.look path = .file text := by
  unfold isFile
  cases around.look path <;> simp

/-!
# Paths that were found

The files to check are what was found, each spelling once.  Paths of one spelling that lead to files
lead to one place, since the last part of a path that was found is a name.
-/

theorem mem_flatten_of_mapM {α β ε : Type} {f : α → Except ε (List β)} {as : List α}
    {results : List (List β)} (h : as.mapM f = .ok results) (b : β) :
    b ∈ results.flatten ↔ ∃ a ∈ as, ∃ bs : List β, f a = .ok bs ∧ b ∈ bs := by
  induction as generalizing results with
  | nil =>
      cases h
      simp
  | cons a as ih =>
      rw [List.mapM_cons] at h
      cases hfirst : f a with
      | error error =>
          rw [hfirst] at h
          cases h
      | ok first =>
          cases hrest : as.mapM f with
          | error error =>
              rw [hfirst, hrest] at h
              cases h
          | ok rest =>
              rw [hfirst, hrest] at h
              cases h
              simp [ih hrest, hfirst]

theorem exists_of_filesToCheck {files : List String}
    (h : around.filesToCheck pattern paths = .ok files) :
    ∃ named : List String, files = distinct named ∧ ∀ path, path ∈ named ↔
      ∃ argument ∈ wanted paths, ∃ found : List String,
        around.filesOf pattern argument = .ok found ∧ path ∈ found := by
  unfold filesToCheck at h
  cases hfound : (if paths.isEmpty then ["."] else paths).mapM (around.filesOf pattern) with
  | error error =>
      rw [hfound] at h
      cases h
  | ok found =>
      rw [hfound] at h
      cases h
      exact ⟨found.flatten, rfl, mem_flatten_of_mapM hfound⟩

theorem isFile_or_isName (h : around.directory.HasNames) {argument path : String}
    {files : List String} (hfiles : around.filesOf pattern argument = .ok files)
    (hpath : path ∈ files) :
    (∃ text, around.look path = .file text) ∨
      ∃ last, (parts path).getLast? = some last ∧ IsName last := by
  have hbelow : ∀ folder : String, ∀ names ∈ around.filesBelow folder, ∀ front : String,
      ∃ last, (parts (join front (Text.join "/" names))).getLast? = some last ∧ IsName last := by
    intro folder names hnames front
    rcases Directory.names_of_mem_filesBelow h hnames with ⟨hne, hall⟩
    rcases exists_parts_join front (Text.join "/" names) with ⟨before, -, hparts, -⟩
    rw [hparts, parts_join hne hall, List.getLast?_append_of_ne_nil _ hne,
      List.getLast?_eq_some_getLast hne]
    exact ⟨_, rfl, hall _ (List.getLast_mem hne)⟩
  unfold filesOf at hfiles
  split at hfiles
  · split at hfiles
    · cases hfiles
      rcases List.mem_map.mp hpath with ⟨joined, hjoined, rfl⟩
      rcases List.mem_map.mp (List.mem_of_mem_filter hjoined) with ⟨names, hnames, rfl⟩
      exact Or.inr (hbelow "." names hnames ".")
    · cases hfiles
  · split at hfiles
    · cases hfiles
      rcases List.mem_map.mp hpath with ⟨names, hnames, rfl⟩
      exact Or.inr (hbelow argument names (List.mem_of_mem_filter hnames) argument)
    · rename_i text hfile
      cases hfiles
      obtain rfl := List.mem_singleton.mp hpath
      exact Or.inl ⟨text, hfile⟩
    · cases hfiles
      cases hpath
    · cases hfiles
      cases hpath

theorem place_eq_of_steps {first second : String} (hfirst : ∃ text, around.look first = .file text)
    (hsecond : ∃ text, around.look second = .file text) (h : steps first = steps second) :
    around.place first = around.place second := by
  rcases hfirst with ⟨text, hfirst⟩
  rcases hsecond with ⟨text', hsecond⟩
  exact (Directory.look_snd_of_file hfirst).trans
    ((congrArg _ h).trans (Directory.look_snd_of_file hsecond).symm)

/-!
# Files and the paths they are checked under

A file is checked twice just if it is found under two spellings, and as many files are found as are
checked just if none is checked twice.
-/

theorem path_ofText (catalog : Catalog) (maxPasses : Nat) (path text : String) :
    (CheckedFile.ofText catalog maxPasses path text).path = path := by
  unfold CheckedFile.ofText
  split
  · rfl
  · split <;> rfl

theorem paths_check (catalog : Catalog) (maxPasses : Nat) (files : List String) :
    (around.check catalog maxPasses files).map (·.path) = files.filter around.isFile := by
  unfold check isFile
  induction files with
  | nil => rfl
  | cons path files ih =>
      rw [List.filterMap_cons, List.filter_cons]
      cases around.look path with
      | file text =>
          rw [List.map_cons, path_ofText, ih]
          rfl
      | missing | blocked | folder => exact ih

variable (around pattern paths) in
/-- The files are checked under paths of different spellings, and every spelling under which a file
is found is among them. -/
structure Checks (checked : List String) : Prop where
  nodup : (checked.map steps).Nodup
  finds : ∀ path ∈ checked, around.Finds pattern paths path
  exists_mem : ∀ path, around.Finds pattern paths path →
    ∃ same ∈ checked, steps same = steps path ∧ around.place same = around.place path

theorem checks_of_filesToCheck (hnames : around.directory.HasNames) {files : List String}
    (h : around.filesToCheck pattern paths = .ok files) (catalog : Catalog) (maxPasses : Nat) :
    around.Checks pattern paths ((around.check catalog maxPasses files).map (·.path)) := by
  rcases exists_of_filesToCheck h with ⟨named, rfl, hnamed⟩
  rw [paths_check]
  refine ⟨?_, ?_, ?_⟩
  · exact (List.filter_sublist.map steps).nodup (nodup_steps_distinct named)
  · intro path hpath
    rcases List.mem_filter.mp hpath with ⟨hdistinct, hfile⟩
    exact ⟨(hnamed path).mp (mem_of_mem_distinct hdistinct), isFile_iff.mp hfile⟩
  · rintro path ⟨hpath, hfile⟩
    rcases exists_mem_distinct ((hnamed path).mpr hpath) with ⟨same, hsame, hsteps⟩
    rcases (hnamed same).mp (mem_of_mem_distinct hsame) with ⟨argument, -, found, hfound, hmem⟩
    have hsameFile : ∃ text, around.look same = .file text := by
      rcases isFile_or_isName hnames hfound hmem with hfile' | ⟨last, hlast, hname⟩
      · exact hfile'
      · rcases hfile with ⟨text, hfile⟩
        exact ⟨text, Directory.look_of_steps hfile hsteps hlast (not_or.mpr ⟨hname.1, hname.2.1⟩)⟩
    exact ⟨same, List.mem_filter.mpr ⟨hsame, isFile_iff.mpr hsameFile⟩, hsteps,
      place_eq_of_steps hsameFile hfile hsteps⟩

theorem Checks.mem_places_iff {checked : List String} (h : around.Checks pattern paths checked)
    (place : List String) :
    place ∈ checked.map around.place ↔ place ∈ around.foundPlaces pattern paths := by
  constructor
  · intro hplace
    rcases List.mem_map.mp hplace with ⟨path, hpath, rfl⟩
    exact ⟨path, h.finds path hpath, rfl⟩
  · rintro ⟨path, hpath, rfl⟩
    rcases h.exists_mem path hpath with ⟨same, hsame, -, hplace⟩
    exact hplace ▸ List.mem_map_of_mem hsame

theorem Checks.nodup_places_iff {checked : List String} (h : around.Checks pattern paths checked) :
    (checked.map around.place).Nodup ↔ around.SpelledOnce pattern paths := by
  constructor
  · intro hnodup first second hfirst hsecond hplace
    rcases h.exists_mem first hfirst with ⟨one, hone, hsteps, honePlace⟩
    rcases h.exists_mem second hsecond with ⟨other, hother, hsteps', hotherPlace⟩
    have heq := List.inj_on_of_nodup_map hnodup hone hother
      (honePlace.trans (hplace.trans hotherPlace.symm))
    rw [← hsteps, ← hsteps', heq]
  · intro hspelled
    refine List.Nodup.map_on ?_ (List.Nodup.of_map steps h.nodup)
    intro first hfirst second hsecond hplace
    have hsteps := hspelled first second (h.finds first hfirst) (h.finds second hsecond) hplace
    exact List.inj_on_of_nodup_map h.nodup hfirst hsecond hsteps

theorem Checks.length_eq_iff {checked : List String} (h : around.Checks pattern paths checked) :
    checked.length = (around.foundPlaces pattern paths).ncard ↔
      (checked.map around.place).Nodup := by
  have hset : around.foundPlaces pattern paths = ↑(checked.map around.place).toFinset := by
    ext place
    rw [List.coe_toFinset, Set.mem_ofPred_eq, h.mem_places_iff]
  rw [hset, Set.ncard_coe_finset, ← List.length_map around.place, eq_comm]
  exact Multiset.toFinset_card_eq_card_iff_nodup

/-!
# Arguments that start alike

A path that is found for an argument goes on below it, so if no argument leads back up and all start
alike, no file is found under two spellings.
-/

/-- The steps with which the paths start that are found for an argument. -/
def lead (argument : String) : List Step :=
  if Path.hasWildcard argument then [.here] else steps argument

variable (paths) in
/-- All paths that are looked for start at the root, or all with a dot, as those with wildcards do,
or all with a name, and none leads back up. -/
structure StartAlike : Prop where
  up_notMem : ∀ argument ∈ wanted paths, .up ∉ lead argument
  origin_eq : ∀ first ∈ wanted paths, ∀ second ∈ wanted paths,
    (lead first).filter Step.isOrigin = (lead second).filter Step.isOrigin

theorem exists_steps_eq (h : around.directory.HasNames) {argument path : String}
    {files : List String} (hfiles : around.filesOf pattern argument = .ok files)
    (hpath : path ∈ files) :
    ∃ names : List String, steps path = lead argument ++ names.map .down := by
  have hbelow : ∀ folder : String, ∀ names ∈ around.filesBelow folder, ∀ front : String,
      front ≠ "" → steps (join front (Text.join "/" names)) = steps front ++ names.map .down := by
    intro folder names hnames front hfront
    rcases Directory.names_of_mem_filesBelow h hnames with ⟨hne, hall⟩
    rw [steps_join hfront, parts_join hne hall, laterSteps_names hall]
  unfold lead
  unfold filesOf at hfiles
  split at hfiles
  · rename_i hwildcard
    split at hfiles
    · cases hfiles
      rcases List.mem_map.mp hpath with ⟨joined, hjoined, rfl⟩
      rcases List.mem_map.mp (List.mem_of_mem_filter hjoined) with ⟨names, hnames, rfl⟩
      rw [if_pos hwildcard]
      exact ⟨names, hbelow "." names hnames "." (by decide)⟩
    · cases hfiles
  · rename_i hplain
    rw [if_neg hplain]
    split at hfiles
    · rename_i hfolder
      cases hfiles
      have hne : argument ≠ "" := by
        rintro rfl
        cases hfolder
      rcases List.mem_map.mp hpath with ⟨names, hnames, rfl⟩
      exact ⟨names, hbelow argument names (List.mem_of_mem_filter hnames) argument hne⟩
    · cases hfiles
      obtain rfl := List.mem_singleton.mp hpath
      exact ⟨[], (List.append_nil _).symm⟩
    · cases hfiles
      cases hpath
    · cases hfiles
      cases hpath

theorem exists_lead_eq {argument : String} (h : .up ∉ lead argument) :
    ∃ names : List String,
      lead argument = (lead argument).filter Step.isOrigin ++ names.map .down := by
  unfold lead at h ⊢
  split
  · exact ⟨[], rfl⟩
  · rename_i hplain
    rw [if_neg hplain, steps_eq] at h
    rcases exists_names_of_laterSteps fun hup => h (List.mem_append_right _ hup) with
      ⟨names, hnames⟩
    refine ⟨names, ?_⟩
    rw [(filter_steps argument).1, ← hnames, steps_eq]

/-- If no argument leads back up and all start alike, no file is found under two spellings. -/
theorem spelledOnce_of_startAlike (hnames : around.directory.HasNames) (h : StartAlike paths) :
    around.SpelledOnce pattern paths := by
  have hsteps : ∀ path : String, around.Finds pattern paths path →
      ∃ argument ∈ wanted paths, ∃ names : List String,
        steps path = (lead argument).filter Step.isOrigin ++ names.map .down := by
    intro path hpath
    rcases hpath.isNamed with ⟨argument, hargument, files, hfiles, hmem⟩
    rcases exists_steps_eq hnames hfiles hmem with ⟨below, hbelow⟩
    rcases exists_lead_eq (h.up_notMem argument hargument) with ⟨above, habove⟩
    refine ⟨argument, hargument, above ++ below, ?_⟩
    rw [hbelow, List.map_append, ← List.append_assoc, ← habove]
  intro first second hfirst hsecond hplace
  rcases hfirst.isFile with ⟨text, hlook⟩
  rcases hsecond.isFile with ⟨text', hlook'⟩
  rcases hsteps first hfirst with ⟨argument, hargument, names, hnames⟩
  rcases hsteps second hsecond with ⟨argument', hargument', names', hnames'⟩
  have hplaces : resolve around.here (steps first) = resolve around.here (steps second) :=
    (Directory.look_snd_of_file hlook).symm.trans
      (hplace.trans (Directory.look_snd_of_file hlook'))
  rw [h.origin_eq argument' hargument' argument hargument] at hnames'
  rw [hnames, hnames', resolve_append, resolve_append, resolve_names, resolve_names] at hplaces
  rw [hnames, hnames', List.append_cancel_left hplaces]

/-!
# Reports
-/

/-- What is reported of the files that were checked.  Each file that was found is among them; it is
counted once, just as all others, if no file is found under two spellings, and then it is written
once at most. -/
structure ReportsOn (around : Surroundings) (pattern : Wildcard) (paths : List String)
    (write : Bool) (origin : String) (checked : List CheckedFile) (report : Report) : Prop where
  output_eq : report.output = Report.lines
    (checked.flatMap (·.lines write) ++ [(CheckSummary.ofFiles checked).line write origin])
  mem_places_iff : ∀ place, place ∈ checked.map (around.place ·.path) ↔
    place ∈ around.foundPlaces pattern paths
  once_iff : (checked.map (around.place ·.path)).Nodup ↔ around.SpelledOnce pattern paths
  counted_iff : (CheckSummary.ofFiles checked).checked =
    (around.foundPlaces pattern paths).ncard ↔ around.SpelledOnce pattern paths
  written_nodup : around.SpelledOnce pattern paths → (report.written.map (·.1)).Nodup
  spelledOnce : StartAlike paths → around.SpelledOnce pattern paths

end Surroundings

namespace Command

open Surroundings

theorem runCheck_eq_ok {around : Surroundings} {options : CatalogOptions} {write : Bool}
    {pattern : String} {paths : List String} {report : Report}
    (h : runCheck around options write pattern paths = .ok report) :
    ∃ (loaded : LoadedCatalog) (wildcard : Wildcard) (files : List String)
        (checked : List CheckedFile),
      loadCatalog around options.path = .ok loaded ∧ Wildcard.parse? pattern = some wildcard ∧
        around.filesToCheck wildcard paths = .ok files ∧
        checked = around.check loaded.catalog options.maxPasses files ∧
        report.output = Report.lines (checked.flatMap (·.lines write) ++
          [(CheckSummary.ofFiles checked).line write loaded.origin]) ∧
        report.written = if write then
            checked.filterMap fun file => file.newText?.map (around.place file.path, ·)
          else [] := by
  unfold runCheck at h
  cases hloaded : loadCatalog around options.path with
  | error failure =>
      rw [hloaded] at h
      cases h
  | ok loaded =>
      rw [hloaded] at h
      cases hwildcard : Wildcard.parse? pattern with
      | none =>
          rw [hwildcard] at h
          cases h
      | some wildcard =>
          rw [hwildcard] at h
          simp only [bind, Except.bind, pure, Except.pure] at h
          cases hfiles : around.filesToCheck wildcard paths with
          | error path =>
              rw [hfiles] at h
              cases h
          | ok files =>
              rw [hfiles] at h
              cases h
              exact ⟨loaded, wildcard, files, _, rfl, rfl, hfiles, rfl, rfl, rfl⟩

theorem written_sublist (around : Surroundings) (checked : List CheckedFile) :
    ((checked.filterMap fun file => file.newText?.map (around.place file.path, ·)).map
      (·.1)).Sublist (checked.map (around.place ·.path)) := by
  induction checked with
  | nil => exact .slnil
  | cons file checked ih =>
      rw [List.filterMap_cons]
      cases file.newText? with
      | none => exact ih.cons _
      | some text => exact ih.cons_cons _

/-- A file is checked, counted and written once just if its paths are spelled alike, which they are
if all arguments start alike. -/
theorem runCheck_reportsOn {around : Surroundings} {options : CatalogOptions} {write : Bool}
    {pattern : String} {paths : List String} {report : Report}
    (hnames : around.directory.HasNames)
    (h : runCheck around options write pattern paths = .ok report) :
    ∃ (loaded : LoadedCatalog) (wildcard : Wildcard) (files : List String),
      loadCatalog around options.path = .ok loaded ∧ Wildcard.parse? pattern = some wildcard ∧
        around.filesToCheck wildcard paths = .ok files ∧
        around.ReportsOn wildcard paths write loaded.origin
          (around.check loaded.catalog options.maxPasses files) report := by
  rcases runCheck_eq_ok h with
    ⟨loaded, wildcard, files, checked, hloaded, hwildcard, hfiles, rfl, houtput, hwritten⟩
  refine ⟨loaded, wildcard, files, hloaded, hwildcard, hfiles, ?_⟩
  have hchecks := checks_of_filesToCheck hnames hfiles loaded.catalog options.maxPasses
  generalize around.check loaded.catalog options.maxPasses files = checked at *
  have hplaces : checked.map (around.place ·.path) =
      (checked.map (·.path)).map around.place := by
    rw [List.map_map]
    rfl
  have hlength : (CheckSummary.ofFiles checked).checked = (checked.map (·.path)).length :=
    (List.length_map _).symm
  refine ⟨houtput, ?_, ?_, ?_, ?_, spelledOnce_of_startAlike hnames⟩
  · rw [hplaces]
    exact hchecks.mem_places_iff
  · rw [hplaces]
    exact hchecks.nodup_places_iff
  · rw [hlength, hchecks.length_eq_iff]
    exact hchecks.nodup_places_iff
  · intro hspelled
    rw [hwritten]
    split
    · refine (written_sublist around checked).nodup ?_
      rw [hplaces]
      exact hchecks.nodup_places_iff.mpr hspelled
    · exact List.nodup_nil

/-- One file that is named and that wildcards stand for is checked twice. -/
theorem runCheck_reportsOn_twoSpellings :
    let around : Surroundings := ⟨⟨[(["a.fragment"], "Toggle::make('a')\n")], []⟩, [], none⟩
    let paths := ["a.fragment", "*.fragment"]
    let wildcard : Wildcard := ⟨.anyText :: ".chain.php".toList.map .char⟩
    around.directory.HasNames ∧
      ∃ (report : Report) (loaded : LoadedCatalog) (files : List String),
        runCheck around ⟨none, 16⟩ false "*.chain.php" paths = .ok report ∧
          around.filesToCheck wildcard paths = .ok files ∧
          around.ReportsOn wildcard paths false loaded.origin
            (around.check loaded.catalog 16 files) report ∧
          (CheckSummary.ofFiles (around.check loaded.catalog 16 files)).checked ≠
            (around.foundPlaces wildcard paths).ncard := by
  intro around paths wildcard
  have hnames : around.directory.HasNames := by
    intro file hfile name hname
    obtain rfl := List.mem_singleton.mp hfile
    obtain rfl := List.mem_singleton.mp hname
    exact ⟨by decide, by decide, by decide, by decide⟩
  have hparse : Wildcard.parse? "*.chain.php" = some wildcard := by decide +kernel
  have hok : (runCheck around ⟨none, 16⟩ false "*.chain.php" paths).isOk = true := by
    decide +kernel
  cases h : runCheck around ⟨none, 16⟩ false "*.chain.php" paths with
  | error failure =>
      rw [h] at hok
      cases hok
  | ok report =>
      rcases runCheck_reportsOn hnames h with ⟨loaded, parsed, files, -, hparsed, hfiles, hon⟩
      obtain rfl := Option.some.inj (hparse.symm.trans hparsed)
      have hfinds : ∀ argument ∈ paths, ∀ path, around.filesOf wildcard argument = .ok [path] →
          around.isFile path = true → around.Finds wildcard paths path := by
        intro argument hargument path hfound hfile
        exact ⟨⟨argument, hargument, [path], hfound, List.mem_singleton.mpr rfl⟩,
          isFile_iff.mp hfile⟩
      have hnamed := hfinds "a.fragment" (by decide) "a.fragment" rfl rfl
      have hmatched := hfinds "*.fragment" (by decide) "./a.fragment" (by decide +kernel) rfl
      refine ⟨hnames, report, loaded, files, rfl, hfiles, hon, fun hcount => ?_⟩
      have hsteps : steps "a.fragment" = steps "./a.fragment" :=
        hon.counted_iff.mp hcount _ _ hnamed hmatched rfl
      exact absurd hsteps (by decide)

end Command

end FluentStyle
