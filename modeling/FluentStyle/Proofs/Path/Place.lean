import FluentStyle.Path.Directory

/-!
# Places of paths

A path that leads to a file leads where its steps lead, through directories.  So paths of one
spelling lead to one place, but a place can be reached by paths of several spellings.
-/

namespace FluentStyle

namespace Path

/-!
# Steps of parts

Paths of one spelling start alike and go on alike, and the steps of a path that does not lead back
up are its names.
-/

theorem laterSteps_cons (part : String) (rest : List String) :
    laterSteps (part :: rest) =
      (if part = "" ∨ part = "." then [] else if part = ".." then [.up] else [.down part]) ++
        laterSteps rest := by
  unfold laterSteps
  rw [List.filterMap_cons]
  by_cases hstay : part = "" ∨ part = "."
  · simp [hstay]
  · by_cases hup : part = ".." <;> simp [hstay, hup]

def Step.isOrigin : Step → Bool
  | .root | .here => true
  | .up | .down _ => false

theorem isOrigin_of_mem_laterSteps {parts : List String} {step : Step}
    (h : step ∈ laterSteps parts) : step.isOrigin = false := by
  rcases List.mem_filterMap.mp h with ⟨part, -, hpart⟩
  split at hpart
  · cases hpart
  · split at hpart <;> cases hpart <;> rfl

/-- Where a path starts, if it says so. -/
def origin (path : String) : List Step :=
  if isAbsolute path then [.root] else if (parts path).head? = some "." then [.here] else []

theorem parts_ne_nil (path : String) : parts path ≠ [] := by
  unfold parts
  rw [ne_eq, List.map_eq_nil_iff]
  exact Text.splitOn_ne_nil _ _

theorem parts_empty : parts "" = [""] := by
  decide

theorem isAbsolute_iff (path : String) :
    isAbsolute path = true ↔ (parts path).head? = some "" ∧ path ≠ "" := by
  unfold isAbsolute parts
  cases htext : path.toList with
  | nil =>
      obtain rfl := String.toList_eq_nil_iff.mp htext
      simp
  | cons c text =>
      have hne : path ≠ "" := by
        rintro rfl
        cases htext
      rw [Text.splitOn]
      by_cases hslash : c = '/'
      · simp [hslash, hne]
      · cases hrest : Text.splitOn '/' text <;> simp [hslash]

theorem steps_eq (path : String) : steps path = origin path ++ laterSteps (parts path) := by
  have hempty := isAbsolute_iff path
  unfold steps origin
  split
  · rename_i hparts
    exact absurd hparts (parts_ne_nil path)
  · rename_i rest hparts
    rw [hparts] at hempty ⊢
    by_cases hpath : path = ""
    · subst hpath
      rw [parts_empty] at hparts
      cases hparts
      rfl
    · rw [if_neg hpath, if_pos (hempty.mpr ⟨rfl, hpath⟩), laterSteps_cons]
      rfl
  · rename_i rest hparts
    rw [hparts] at hempty ⊢
    rw [if_neg (by rw [hempty]; simp), if_pos List.head?_cons, laterSteps_cons]
    rfl
  · rename_i first rest hfirst hdot hparts
    rw [hparts] at hempty ⊢
    have hhere : ¬(first :: rest).head? = some "." := fun h => hdot (Option.some.inj h)
    rw [if_neg fun h => hfirst (Option.some.inj (hempty.mp h).1), if_neg hhere]
    rfl

theorem filter_origin (path : String) :
    (origin path).filter Step.isOrigin = origin path ∧
      (origin path).filter (fun step => !step.isOrigin) = [] := by
  unfold origin
  split
  · exact ⟨rfl, rfl⟩
  · split <;> exact ⟨rfl, rfl⟩

theorem filter_laterSteps (parts : List String) :
    (laterSteps parts).filter Step.isOrigin = [] ∧
      (laterSteps parts).filter (fun step => !step.isOrigin) = laterSteps parts := by
  refine ⟨List.filter_eq_nil_iff.mpr ?_, List.filter_eq_self.mpr ?_⟩
  · intro step hstep
    simp [isOrigin_of_mem_laterSteps hstep]
  · intro step hstep
    simp [isOrigin_of_mem_laterSteps hstep]

theorem filter_steps (path : String) :
    (steps path).filter Step.isOrigin = origin path ∧
      (steps path).filter (fun step => !step.isOrigin) = laterSteps (parts path) := by
  simp [steps_eq, List.filter_append, filter_origin, filter_laterSteps]

theorem origin_eq_of_steps {path other : String} (h : steps path = steps other) :
    origin path = origin other ∧ laterSteps (parts path) = laterSteps (parts other) := by
  rw [← (filter_steps path).1, ← (filter_steps path).2, h, (filter_steps other).1,
    (filter_steps other).2]
  exact ⟨rfl, rfl⟩

theorem exists_names_of_laterSteps {parts : List String} (h : .up ∉ laterSteps parts) :
    ∃ names : List String, laterSteps parts = names.map .down := by
  induction parts with
  | nil => exact ⟨[], rfl⟩
  | cons part rest ih =>
      rw [laterSteps_cons] at h ⊢
      rcases ih (fun hup => h (List.mem_append_right _ hup)) with ⟨names, hnames⟩
      rw [hnames]
      split
      · exact ⟨names, rfl⟩
      · rename_i hstay
        split
        · rename_i hup
          rw [if_neg hstay, if_pos hup] at h
          exact absurd (List.mem_append_left _ List.mem_cons_self) h
        · exact ⟨part :: names, rfl⟩

/-!
# Where steps lead

The places on the way of steps are directories.  A file is found at the end of such a way, and
nothing is found behind it, so its place is told by the spelling of its path.
-/

def Step.from (place : List String) : Step → List String
  | .root => []
  | .here => place
  | .up => place.dropLast
  | .down name => place ++ [name]

def resolve (place : List String) (steps : List Step) : List String :=
  steps.foldl Step.from place

theorem laterSteps_ne_nil {parts : List String} {part : String} (h : part ∈ parts)
    (hstep : ¬(part = "" ∨ part = ".")) : laterSteps parts ≠ [] := by
  induction parts with
  | nil => cases h
  | cons first rest ih =>
      rw [laterSteps_cons]
      rcases List.mem_cons.mp h with rfl | hrest
      · rw [if_neg hstep]
        split <;> exact List.cons_ne_nil _ _
      · exact List.append_ne_nil_of_right_ne_nil _ (ih hrest)

theorem laterSteps_cons_cases (part : String) (rest : List String) :
    (part = "" ∨ part = ".") ∧ laterSteps (part :: rest) = laterSteps rest ∧
        (∀ place, next place part = place) ∨
      ∃ step : Step, laterSteps (part :: rest) = step :: laterSteps rest ∧
        ∀ place, next place part = step.from place := by
  rw [laterSteps_cons]
  by_cases hstay : part = "" ∨ part = "."
  · rw [if_pos hstay]
    exact Or.inl ⟨hstay, rfl, fun place => by simp [next, hstay]⟩
  · rw [if_neg hstay]
    by_cases hup : part = ".."
    · rw [if_pos hup]
      exact Or.inr ⟨.up, rfl, fun place => by simp [next, hup, Step.from]⟩
    · rw [if_neg hup]
      exact Or.inr ⟨.down part, rfl, fun place => by simp [next, hstay, hup, Step.from]⟩

theorem resolve_append (place : List String) (first second : List Step) :
    resolve place (first ++ second) = resolve (resolve place first) second :=
  List.foldl_append

theorem resolve_names (place names : List String) :
    resolve place (names.map .down) = place ++ names := by
  induction names generalizing place with
  | nil => exact (List.append_nil place).symm
  | cons name names ih =>
      rw [List.map_cons, resolve, List.foldl_cons]
      exact (ih _).trans (List.append_assoc place [name] names)

theorem start_eq (place : List String) (path : String) :
    start place path = resolve place (origin path) := by
  unfold start origin
  split
  · rfl
  · split <;> rfl

theorem resolve_steps (place : List String) (path : String) :
    resolve place (steps path) = resolve (start place path) (laterSteps (parts path)) := by
  rw [steps_eq, start_eq, resolve_append]

end Path

namespace Directory

open FluentStyle.Path

/-- The places on the way of steps are directories; where they lead at last does not matter. -/
def IsWay (directory : Directory) (place : List String) : List Step → Prop
  | [] => True
  | step :: rest => directory.find place = .folder ∧ directory.IsWay (step.from place) rest

theorem isWay_of_follow {directory : Directory} {place parts : List String} {text : String}
    (h : (directory.follow place parts).1 = .file text) :
    directory.IsWay place (laterSteps parts) ∧
      directory.find (resolve place (laterSteps parts)) = .file text ∧
      (directory.follow place parts).2 = resolve place (laterSteps parts) := by
  induction parts generalizing place with
  | nil => exact ⟨trivial, h, rfl⟩
  | cons part rest ih =>
      rw [follow] at h ⊢
      split at h
      · rename_i hfolder
        rcases laterSteps_cons_cases part rest with ⟨-, hsteps, hnext⟩ | ⟨step, hsteps, hnext⟩
        · rw [hnext] at h ⊢
          rw [hsteps]
          exact ih h
        · rw [hnext] at h ⊢
          rw [hsteps]
          exact ⟨⟨hfolder, (ih h).1⟩, (ih h).2⟩
      · cases h
      · rename_i other hfolder hfile
        exact absurd h (hfile text)

theorem IsWay.find_eq {directory : Directory} {place : List String} {steps : List Step}
    (h : directory.IsWay place steps) (hne : steps ≠ []) : directory.find place = .folder := by
  cases steps with
  | nil => exact absurd rfl hne
  | cons step rest => exact h.1

/-- Steps through directories to a file lead there if the last part is a step: behind a file nothing
is found. -/
theorem follow_of_isWay {directory : Directory} {place parts : List String} {last text : String}
    (hway : directory.IsWay place (laterSteps parts))
    (hfile : directory.find (resolve place (laterSteps parts)) = .file text)
    (hlast : parts.getLast? = some last) (hstep : ¬(last = "" ∨ last = ".")) :
    (directory.follow place parts).1 = .file text := by
  induction parts generalizing place with
  | nil => cases hlast
  | cons part rest ih =>
      have hfolder : directory.find place = .folder :=
        hway.find_eq (laterSteps_ne_nil (List.mem_of_getLast? hlast) hstep)
      rw [follow, hfolder]
      simp only
      rcases laterSteps_cons_cases part rest with ⟨hstay, hsteps, hnext⟩ | ⟨step, hsteps, hnext⟩
      · rw [hsteps] at hway hfile
        rw [hnext]
        cases rest with
        | nil =>
            obtain rfl : part = last := Option.some.inj hlast
            exact absurd hstay hstep
        | cons second rest => exact ih hway hfile hlast
      · rw [hsteps] at hway hfile
        rw [hnext]
        cases rest with
        | nil => exact hfile
        | cons second rest => exact ih hway.2 hfile hlast

theorem look_snd_of_file {directory : Directory} {place : List String} {path text : String}
    (h : (directory.look place path).1 = .file text) :
    (directory.look place path).2 = resolve place (steps path) := by
  unfold look at h ⊢
  split at h
  · cases h
  · rename_i hne
    rw [if_neg hne, resolve_steps]
    exact (isWay_of_follow h).2.2

theorem look_of_steps {directory : Directory} {place : List String} {path other last text : String}
    (h : (directory.look place path).1 = .file text) (hsteps : steps other = steps path)
    (hlast : (parts other).getLast? = some last) (hstep : ¬(last = "" ∨ last = ".")) :
    (directory.look place other).1 = .file text := by
  rcases origin_eq_of_steps hsteps with ⟨horigin, hlater⟩
  unfold look at h ⊢
  split at h
  · cases h
  · rcases isWay_of_follow h with ⟨hway, hfile, -⟩
    have hne : other ≠ "" := by
      rintro rfl
      rw [parts_empty] at hlast
      exact hstep (Or.inl (Option.some.inj hlast).symm)
    rw [start_eq, ← horigin, ← start_eq, ← hlater] at hway hfile
    rw [if_neg hne]
    exact follow_of_isWay hway hfile hlast hstep

end Directory

/-!
# Names

Names with slashes between them are the parts of a path, and a path below a directory takes the
steps of the directory first.
-/

namespace Path

def IsName (name : String) : Prop :=
  name ≠ "" ∧ name ≠ "." ∧ name ≠ ".." ∧ '/' ∉ name.toList

theorem splitOn_append (separator : Char) (first second : List Char) :
    Text.splitOn separator (first ++ separator :: second) =
      Text.splitOn separator first ++ Text.splitOn separator second := by
  induction first with
  | nil => simp [Text.splitOn]
  | cons c first ih =>
      rw [List.cons_append, Text.splitOn, Text.splitOn, ih]
      split
      · rfl
      · cases hfirst : Text.splitOn separator first with
        | nil => exact absurd hfirst (Text.splitOn_ne_nil _ _)
        | cons piece pieces => rfl

theorem splitOn_of_notMem {separator : Char} {text : List Char} (h : separator ∉ text) :
    Text.splitOn separator text = [text] := by
  induction text with
  | nil => rfl
  | cons c text ih =>
      rw [List.mem_cons, not_or] at h
      rw [Text.splitOn, if_neg (Ne.symm h.1), ih h.2]

theorem parts_append (first second : String) :
    parts (first ++ "/" ++ second) = parts first ++ parts second := by
  unfold parts
  rw [String.toList_append, String.toList_append, List.append_assoc]
  exact (congrArg _ (splitOn_append '/' _ _)).trans List.map_append

/-- Names with slashes between them are the parts of a path. -/
theorem parts_join {names : List String} (hne : names ≠ []) (h : ∀ name ∈ names, IsName name) :
    parts (Text.join "/" names) = names := by
  induction names with
  | nil => exact absurd rfl hne
  | cons name names ih =>
      rcases List.forall_mem_cons.mp h with ⟨⟨-, -, -, hslash⟩, hrest⟩
      have hname : parts name = [name] := by
        unfold parts
        rw [splitOn_of_notMem hslash, List.map_singleton, String.ofList_toList]
      cases names with
      | nil => exact hname
      | cons second names =>
          rw [Text.join, parts_append, hname, ih (List.cons_ne_nil _ _) hrest]
          · rfl
          · simp

theorem laterSteps_names {names : List String} (h : ∀ name ∈ names, IsName name) :
    laterSteps names = names.map .down := by
  induction names with
  | nil => rfl
  | cons name names ih =>
      rcases List.forall_mem_cons.mp h with ⟨⟨hempty, hdot, hup, -⟩, hrest⟩
      rw [laterSteps_cons, ih hrest, if_neg (not_or.mpr ⟨hempty, hdot⟩), if_neg hup]
      rfl

theorem exists_parts_join (folder name : String) :
    ∃ front : List String, front ≠ [] ∧ parts (join folder name) = front ++ parts name ∧
      (parts folder = front ∨ parts folder = front ++ [""]) := by
  unfold join
  split
  · rename_i hslash
    rcases List.getLast?_eq_some_iff.mp hslash with ⟨text, htext⟩
    obtain rfl : folder = String.ofList text ++ "/" := by
      rw [← String.toList_inj, htext, String.toList_append, String.toList_ofList]
      rfl
    have hfolder := parts_append (String.ofList text) ""
    rw [String.append_empty, parts_empty] at hfolder
    exact ⟨_, parts_ne_nil _, parts_append _ name, Or.inr hfolder⟩
  · exact ⟨parts folder, parts_ne_nil folder, parts_append folder name, Or.inl rfl⟩

theorem origin_eq_of_head {path other : String} (hpath : path ≠ "") (hother : other ≠ "")
    (h : (parts path).head? = (parts other).head?) : origin path = origin other := by
  have habsolute : isAbsolute path = true ↔ isAbsolute other = true := by
    rw [isAbsolute_iff, isAbsolute_iff, h]
    exact and_congr_right fun _ => iff_of_true hpath hother
  unfold origin
  rw [h]
  simp only [habsolute]

theorem steps_join {folder : String} (hne : folder ≠ "") (name : String) :
    steps (join folder name) = steps folder ++ laterSteps (parts name) := by
  rcases exists_parts_join folder name with ⟨front, hfront, hjoin, hfolder⟩
  have hjoined : join folder name ≠ "" := by
    intro hempty
    have hlength := congrArg List.length hjoin
    have hpositive := List.length_pos_iff.mpr hfront
    have hpositive' := List.length_pos_iff.mpr (parts_ne_nil name)
    rw [hempty, parts_empty, List.length_append, List.length_singleton] at hlength
    omega
  have hhead : (parts (join folder name)).head? = (parts folder).head? := by
    rcases List.exists_cons_of_ne_nil hfront with ⟨first, rest, rfl⟩
    rcases hfolder with hfolder | hfolder <;> rw [hjoin, hfolder] <;> rfl
  have hlater : laterSteps (parts folder) = laterSteps front := by
    rcases hfolder with hfolder | hfolder
    · rw [hfolder]
    · rw [hfolder, laterSteps, List.filterMap_append]
      exact List.append_nil _
  rw [steps_eq, steps_eq, origin_eq_of_head hjoined hne hhead, hjoin, hlater, List.append_assoc]
  exact congrArg _ List.filterMap_append

end Path

end FluentStyle
