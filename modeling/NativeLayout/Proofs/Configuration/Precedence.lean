/-
# Settings of the user and of the project

A run reads two toolchain files, one of the user and one of the project, and what the file of
the project says of a setting goes first. That it does so whatever it says is true of all
settings that are one text, even an empty one. A list that is empty is taken as one that was
left out: so a project can not take away flags or directories of the user, and that is the one
way in which what it says is not what counts.

A file that is not there says nothing. What a file says is looked for in its document as it was
read, before any defaults are filled in.
-/

import NativeLayout.Host.Files
import NativeLayout.Proofs.Layers
import NativeLayout.Proofs.Toml.Records

namespace NativeLayout

open ConfigDocument ToolchainSettings Toml.Decoder

/-- The settings of a toolchain file. -/
inductive Setting
  | cc
  | target
  | sysroot
  | cflags
  | includeDirs

namespace Setting

/-- The name of a setting in a file. -/
def key : Setting → String
  | cc => "cc"
  | target => "target"
  | sysroot => "sysroot"
  | cflags => "cflags"
  | includeDirs => "include_dirs"

/-- The texts of a setting: one or none of those that are one text, any number of a list. -/
def texts (k : Setting) (s : ToolchainSettings) : List String :=
  match k with
  | cc => s.cc.toList
  | target => s.target.toList
  | sysroot => s.sysroot.toList
  | cflags => s.cflags
  | includeDirs => s.includeDirs

/-- The texts that the value of a setting gives. -/
def read (k : Setting) (v : Toml.Value) : Except Toml.DataError (List String) :=
  match k with
  | cc | sysroot => (path v).map ([·])
  | target => (string v).map ([·])
  | cflags => list string v
  | includeDirs => list path v

/-- The value that a document has for a setting. -/
def value? (k : Setting) (document : Toml.Table) : Option Toml.Value :=
  (lastWritten document "toolchain").bind (settings.given? · k.key)

/-- What a document says of a setting, if it has it. -/
def said? (k : Setting) (document : Toml.Table) : Option (List String) :=
  (k.value? document).bind fun v => (k.read v).toOption

/-! ## Reading a document -/

variable {k : Setting} {document : Toml.Table} {layer : ToolchainSettings}

theorem nodup_settings : settings.names.Nodup := by decide

/-- A part of the settings that at most one of the setters changes. -/
theorem keeps_settings {name : String} {view : ToolchainSettings → List String}
    (cc : "cc" = name ∨ ∀ s a, view { s with cc := some a } = view s)
    (target : "target" = name ∨ ∀ s a, view { s with target := some a } = view s)
    (sysroot : "sysroot" = name ∨ ∀ s a, view { s with sysroot := some a } = view s)
    (cflags : "cflags" = name ∨ ∀ s a, view { s with cflags := a } = view s)
    (includeDirs : "include_dirs" = name ∨ ∀ s a, view { s with includeDirs := a } = view s) :
    ∀ other ∈ settings.members, other.name = name ∨ other.Keeps view := by
  simp only [settings, List.forall_mem_cons]
  exact ⟨cc.imp_right Member.keeps_defaulted, target.imp_right Member.keeps_defaulted,
    sysroot.imp_right Member.keeps_defaulted, cflags.imp_right Member.keeps_defaulted,
    includeDirs.imp_right Member.keeps_defaulted, nofun⟩

/-- Reading a setting gives its texts and leaves those of all other settings alone. -/
theorem part_settings (k : Setting) : settings.Part k.key k.read k.texts := by
  cases k with
  | cc =>
      refine RecordShape.part_of_defaulted nodup_settings (.head _) (fun v a s given => ?_)
        (keeps_settings (.inl rfl) ?_ ?_ ?_ ?_)
      · rw [read, given]
        rfl
      all_goals exact .inr fun _ _ => rfl
  | target =>
      refine RecordShape.part_of_defaulted nodup_settings (.tail _ (.head _))
        (fun v a s given => ?_) (keeps_settings ?_ (.inl rfl) ?_ ?_ ?_)
      · rw [read, given]
        rfl
      all_goals exact .inr fun _ _ => rfl
  | sysroot =>
      refine RecordShape.part_of_defaulted nodup_settings (.tail _ (.tail _ (.head _)))
        (fun v a s given => ?_) (keeps_settings ?_ ?_ (.inl rfl) ?_ ?_)
      · rw [read, given]
        rfl
      all_goals exact .inr fun _ _ => rfl
  | cflags =>
      refine RecordShape.part_of_defaulted nodup_settings (.tail _ (.tail _ (.tail _ (.head _))))
        (fun v a s given => given) (keeps_settings ?_ ?_ ?_ (.inl rfl) ?_)
      all_goals exact .inr fun _ _ => rfl
  | includeDirs =>
      refine RecordShape.part_of_defaulted nodup_settings
        (.tail _ (.tail _ (.tail _ (.tail _ (.head _)))))
        (fun v a s given => given) (keeps_settings ?_ ?_ ?_ ?_ (.inl rfl))
      all_goals exact .inr fun _ _ => rfl

theorem part_toolchain : toolchainShape.Part "toolchain" settings.decode id := by
  have distinct : toolchainShape.names.Nodup := by decide
  refine RecordShape.part_of_defaulted distinct (.head _) (fun v s record given => given) ?_
  intro other among
  obtain rfl := List.mem_singleton.mp among
  exact .inl rfl

/-- What was made of a document has for each setting what the document says of it. -/
theorem read_value (made : toolchainShape.ofTable document = .ok layer) :
    (k.value? document).elim (.ok []) k.read = .ok (k.texts layer) := by
  have table := part_toolchain.of_ofTable made
  have silent : k.texts {} = [] := by cases k <;> rfl
  rw [value?]
  cases written : lastWritten document "toolchain" with
  | none =>
      rw [written] at table
      have same : ({} : ToolchainSettings) = layer := Except.ok.inj table
      rw [← same, silent]
      rfl
  | some v =>
      rw [written] at table
      have own := (part_settings k).of_decode nodup_settings table
      rw [show settings.start = {} from rfl, silent] at own
      exact own

theorem said?_of_ofTable (made : toolchainShape.ofTable document = .ok layer) :
    k.said? document = (k.value? document).map fun _ => k.texts layer := by
  have told := read_value (k := k) made
  rw [said?]
  cases given : k.value? document with
  | none => rfl
  | some v =>
      rw [given] at told
      have own : k.read v = .ok (k.texts layer) := told
      rw [Option.bind_some, own]
      rfl

theorem texts_of_ofTable (made : toolchainShape.ofTable document = .ok layer) :
    k.texts layer = (k.said? document).getD [] := by
  have told := read_value (k := k) made
  rw [said?_of_ofTable made]
  cases given : k.value? document with
  | none =>
      rw [given] at told
      exact (Except.ok.inj told).symm
  | some v => rfl

/-- The texts of a setting in two layers are those of the upper one, unless it has none. -/
theorem texts_merge (k : Setting) (base top : ToolchainSettings) :
    k.texts (base.merge top) = overlay (k.texts base) (k.texts top) := by
  have single (lower upper : Option String) :
      (upper.or lower).toList = overlay lower.toList upper.toList := by
    cases upper <;> rfl
  cases k with
  | cc => exact single base.cc top.cc
  | target => exact single base.target top.target
  | sysroot => exact single base.sysroot top.sysroot
  | cflags => rfl
  | includeDirs => rfl

end Setting

/-! ## Loading the files -/

namespace Host

variable {host : Host} {directory : String} {document : Toml.Table} {s : ToolchainSettings}

/-- The document in the toolchain file of a directory, if there is one that can be read. A file
that is not there has an empty one. -/
def toolchainDocument? (host : Host) (directory : String) : Option Toml.Table :=
  let file := Path.join directory toolchainFile
  if host.present file then (host.readText file).toOption.bind Toml.parse? else some []

/-- The settings that the toolchain files of some directories come to. -/
def loadSettings (host : Host) (directories : List String) : Except LoadError ToolchainSettings :=
  host.loadLayers parseToolchain merge toolchainFile directories {}

theorem loadSettings_of_loadConfiguration {directories : List String}
    {configuration : Configuration}
    (loaded : host.loadConfiguration directories = .ok configuration) :
    host.loadSettings directories = .ok configuration.settings := by
  rw [loadConfiguration] at loaded
  obtain ⟨settings, own, loaded⟩ := bind_eq_ok_iff.mp loaded
  obtain ⟨capabilities, _, loaded⟩ := bind_eq_ok_iff.mp loaded
  cases loaded
  exact own

theorem loadLayers_cons {α : Type} (parse : String → Except Toml.Error α) (merge : α → α → α)
    (file : String) (directories : List String) (start : α) :
    host.loadLayers parse merge file (directory :: directories) start =
      host.loadLayers parse merge file [directory] start >>=
        host.loadLayers parse merge file directories := by
  simp only [loadLayers, List.foldlM_cons, List.foldlM_nil, bind_pure]
  rfl

/-- Loading a file succeeds exactly if its document can be read, and lays what it says over what
was there. -/
theorem loadLayers_eq_ok_iff (holds : host.toolchainDocument? directory = some document)
    (start : ToolchainSettings) :
    host.loadLayers parseToolchain merge toolchainFile [directory] start = .ok s ↔
      ∃ layer, toolchainShape.ofTable document = .ok layer ∧ start.merge layer = s := by
  simp only [loadLayers, List.foldlM_cons, List.foldlM_nil, bind_pure]
  rw [toolchainDocument?] at holds
  by_cases there : host.present (Path.join directory toolchainFile)
  · rw [if_pos there] at holds
    rw [loadPresent, if_pos there, load]
    cases legible : host.readText (Path.join directory toolchainFile) with
    | error reason =>
        rw [legible] at holds
        cases holds
    | ok text =>
        rw [legible] at holds
        have parsed : Toml.parse? text = some document := holds
        simp only [parseToolchain, Toml.decodeText, parsed]
        cases toolchainShape.ofTable document with
        | error failure => exact ⟨nofun, nofun⟩
        | ok layer =>
            constructor
            · rintro ⟨⟩
              exact ⟨layer, rfl, rfl⟩
            · rintro ⟨_, ⟨⟩, rfl⟩
              rfl
  · rw [if_neg there] at holds
    obtain rfl := Option.some.inj holds
    have empty : toolchainShape.ofTable [] = .ok {} := rfl
    rw [loadPresent, if_neg there, empty]
    constructor
    · rintro ⟨⟩
      exact ⟨{}, rfl, merge_empty _⟩
    · rintro ⟨_, ⟨⟩, rfl⟩
      rfl

/-- The files of the user and of the project can be loaded exactly if both documents can be read,
and then the project's is laid over the user's. -/
theorem loadSettings_eq_ok_iff {user project : String} {general own : Toml.Table}
    (lower : host.toolchainDocument? user = some general)
    (upper : host.toolchainDocument? project = some own) :
    host.loadSettings [user, project] = .ok s ↔ ∃ base top,
      toolchainShape.ofTable general = .ok base ∧ toolchainShape.ofTable own = .ok top ∧
        base.merge top = s := by
  rw [loadSettings, loadLayers_cons, bind_eq_ok_iff]
  simp only [loadLayers_eq_ok_iff lower, loadLayers_eq_ok_iff upper, empty_merge]
  constructor
  · rintro ⟨_, ⟨base, first, rfl⟩, top, second, merged⟩
    exact ⟨base, top, first, second, merged⟩
  · rintro ⟨base, top, first, second, merged⟩
    exact ⟨base, ⟨base, first, rfl⟩, top, second, merged⟩

end Host

namespace Setting

/-- Texts laid over others are what was said last, unless nothing was said over something. -/
theorem overlay_getD_iff (lower upper : Option (List String)) :
    overlay (lower.getD []) (upper.getD []) = (upper.or lower).getD [] ↔
      ¬ (upper = some [] ∧ lower.getD [] ≠ []) := by
  cases upper with
  | none => exact iff_of_true rfl nofun
  | some texts =>
      cases texts with
      | nil => simp [overlay]
      | cons first rest => exact iff_of_true rfl nofun

/-- Only a list can be there and have no texts. -/
theorem list_of_said?_eq_nil {k : Setting} {document : Toml.Table}
    (said : k.said? document = some []) : k = .cflags ∨ k = .includeDirs := by
  have filled {one : Toml.Decoder String} {v : Toml.Value} :
      ((one v).map ([·])).toOption ≠ some [] := by
    cases one v <;> exact nofun
  obtain ⟨v, _, read⟩ := Option.bind_eq_some_iff.mp said
  cases k with
  | cc => exact absurd read filled
  | target => exact absurd read filled
  | sysroot => exact absurd read filled
  | cflags => exact .inl rfl
  | includeDirs => exact .inr rfl

end Setting

/-- What counts when the user and the project both have a toolchain file. The files can be loaded
exactly if both documents can be read, and a configuration has the settings that they come to.
A setting is in a document exactly if the document says something of it. The settings of a run
are for each setting what the project says, whatever it is, or else what the user says, or
nothing, exactly if it is not so that the project has an empty list where the user has one that
is not. In that case, which can only arise for flags and directories, the user's list counts. -/
theorem project_precedes_iff {host : Host} {user project : String} {general own : Toml.Table}
    (lower : host.toolchainDocument? user = some general)
    (upper : host.toolchainDocument? project = some own) :
    ((∃ s, host.loadSettings [user, project] = .ok s) ↔
      (∃ base, toolchainShape.ofTable general = .ok base) ∧
        ∃ top, toolchainShape.ofTable own = .ok top) ∧
    (∀ configuration, host.loadConfiguration [user, project] = .ok configuration →
      host.loadSettings [user, project] = .ok configuration.settings) ∧
    ∀ s, host.loadSettings [user, project] = .ok s → ∀ k : Setting,
      (k.said? own).isSome = (k.value? own).isSome ∧
      (k.said? general).isSome = (k.value? general).isSome ∧
      (k.texts s = ((k.said? own).or (k.said? general)).getD [] ↔
        ¬ (k.said? own = some [] ∧ (k.said? general).getD [] ≠ [])) ∧
      (k.said? own = some [] →
        k.texts s = (k.said? general).getD [] ∧ (k = .cflags ∨ k = .includeDirs)) := by
  have loads {s : ToolchainSettings} := Host.loadSettings_eq_ok_iff (s := s) lower upper
  refine ⟨?_, fun configuration => Host.loadSettings_of_loadConfiguration, ?_⟩
  · simp only [loads]
    constructor
    · rintro ⟨_, base, top, first, second, _⟩
      exact ⟨⟨base, first⟩, top, second⟩
    · rintro ⟨⟨base, first⟩, top, second⟩
      exact ⟨base.merge top, base, top, first, second, rfl⟩
  · intro s loaded k
    obtain ⟨base, top, first, second, rfl⟩ := loads.mp loaded
    have texts : k.texts (base.merge top) =
        overlay ((k.said? general).getD []) ((k.said? own).getD []) := by
      rw [Setting.texts_merge, Setting.texts_of_ofTable first, Setting.texts_of_ofTable second]
    refine ⟨?_, ?_, ?_, fun said => ⟨?_, Setting.list_of_said?_eq_nil said⟩⟩
    · rw [Setting.said?_of_ofTable second, Option.isSome_map]
    · rw [Setting.said?_of_ofTable first, Option.isSome_map]
    · rw [texts, Setting.overlay_getD_iff]
    · rw [texts, said]
      rfl

/-- A machine with a toolchain file of the user and one of the project. -/
def furnished (user project : String) : Host where
  read path :=
    if path = "/home/toolchain.toml" then .ok user.toUTF8
    else if path = "/work/toolchain.toml" then .ok project.toUTF8
    else .error "No such file or directory (os error 2)"
  present path := path = "/home/toolchain.toml" ∨ path = "/work/toolchain.toml"
  isProgram _ := false
  version? _ := none
  launch _ _ := .error "No such file or directory (os error 2)"
  env? _ := none
  workingDirectory := "/work"
  accountHome? := none
  scratch := .error "No such file or directory (os error 2)"

/-- The compiler of a project counts although it is the empty text, and the flags of the user
where the project has none. -/
theorem project_precedes_iff_furnished :
    let host := furnished "[toolchain]\ncc = \"gcc\"\ncflags = [\"-O2\"]\n"
      "[toolchain]\ncc = \"\"\n"
    ∃ general own, host.toolchainDocument? "/home" = some general ∧
      host.toolchainDocument? "/work" = some own ∧
      ∃ s, host.loadSettings ["/home", "/work"] = .ok s ∧
        (∀ k : Setting, k.texts s = ((k.said? own).or (k.said? general)).getD []) ∧
        s.cc = some "" ∧ s.cflags = ["-O2"] := by
  intro host
  obtain ⟨general, lower⟩ : ∃ general, host.toolchainDocument? "/home" = some general :=
    Option.isSome_iff_exists.mp (by decide +kernel)
  obtain ⟨own, upper⟩ : ∃ own, host.toolchainDocument? "/work" = some own :=
    Option.isSome_iff_exists.mp (by decide +kernel)
  have loaded : host.loadSettings ["/home", "/work"] =
      .ok { cc := some "", cflags := ["-O2"] } := by
    decide +kernel
  obtain ⟨_, _, counts⟩ := project_precedes_iff lower upper
  refine ⟨general, own, lower, upper, _, loaded, fun k => ?_, rfl, rfl⟩
  obtain ⟨_, _, follows, _⟩ := counts _ loaded k
  have filled : (host.toolchainDocument? "/work").bind k.said? ≠ some [] := by
    cases k <;> decide +kernel
  rw [upper, Option.bind_some] at filled
  exact follows.mpr fun emptied => filled emptied.1

/-- A project that empties its list of flags still has those of the user. -/
theorem not_project_precedes_emptied :
    let host := furnished "[toolchain]\ncflags = [\"-O2\"]\n" "[toolchain]\ncflags = []\n"
    ∃ general own, host.toolchainDocument? "/home" = some general ∧
      host.toolchainDocument? "/work" = some own ∧
      ∃ configuration, host.loadConfiguration ["/home", "/work"] = .ok configuration ∧
        ¬ ∀ (k : Setting) (texts : List String),
          k.said? own = some texts → k.texts configuration.settings = texts := by
  intro host
  obtain ⟨general, lower⟩ : ∃ general, host.toolchainDocument? "/home" = some general :=
    Option.isSome_iff_exists.mp (by decide +kernel)
  obtain ⟨own, upper⟩ : ∃ own, host.toolchainDocument? "/work" = some own :=
    Option.isSome_iff_exists.mp (by decide +kernel)
  have settings : (host.loadConfiguration ["/home", "/work"]).toOption.map (·.settings) =
      some { cflags := ["-O2"] } := by
    decide +kernel
  have emptied : (host.toolchainDocument? "/work").bind Setting.cflags.said? = some [] := by
    decide +kernel
  rw [upper, Option.bind_some] at emptied
  obtain ⟨configuration, found, kept⟩ := Option.map_eq_some_iff.mp settings
  refine ⟨general, own, lower, upper, configuration, ?_, fun precedes => ?_⟩
  · cases loaded : host.loadConfiguration ["/home", "/work"] with
    | error failure =>
        rw [loaded] at found
        cases found
    | ok other =>
        rw [loaded] at found
        rw [Option.some.inj found]
  · have gone : configuration.settings.cflags = [] := precedes .cflags [] emptied
    rw [kept] at gone
    cases gone

end NativeLayout
