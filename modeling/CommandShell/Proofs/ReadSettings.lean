import CommandShell.Invocation
import CommandShell.Machine
import CommandShell.Proofs.CanonicalPaths
import CommandShell.Proofs.DistinctKeys
import CommandShell.Proofs.EncodedTexts
import Mathlib.Tactic

namespace CommandShell

/-!
# ReadSettings — what the file with the settings does to them

A document gives each setting a value or not, wherever it is written. One wrong value spoils the
whole document; otherwise every setting is on its own:

* `Setting` — the settings, with where they stand in a document and what they are without one;
* `Setting.Gives`, `Setting.given?_eq_some_iff` — the values that a document gives a setting, told by
  its entries and not by their order; there is at most one;
* `Settings.Misshapen`, `Settings.ofEntries?_eq_none_iff` — a document is of no use exactly if a
  section or a setting has a value of the wrong kind, dates apart;
* `Settings.of_ofEntries?` — otherwise a setting has the value that it is given, or its own;
* `Settings.readText?_eq_some_iff` — the files that can be read;
* `Settings.load_all_or_nothing` — what reading the settings gives.
-/

namespace Toml.Node

/-- Whether the value can be a section: it is a table, or an array of the fields of one. -/
def IsSection : Node → Prop
  | .table _ _ => True
  | .array _ => True
  | _ => False

/-- Whether the value is a date or a time. -/
def isMoment : Node → Bool
  | .moment _ => true
  | _ => false

end Toml.Node

/-- What can be set up. -/
inductive Setting where
  /-- The program that shows the manual. -/
  | pager
  /-- The file with the manual. -/
  | manual
  /-- Which events are logged. -/
  | filter
deriving DecidableEq, Repr

namespace Setting

/-- The section that the setting belongs to. -/
def table : Setting → String
  | .pager => "help"
  | .manual => "help"
  | .filter => "log"

/-- Its key there. -/
def key : Setting → String
  | .pager => "pager"
  | .manual => "manual"
  | .filter => "filter"

/-- Its position in a section that is given as an array. -/
def position : Setting → Nat
  | .pager => 0
  | .manual => 1
  | .filter => 0

/-- What it is if nothing is set up. -/
def standard : Setting → String
  | .pager => "more"
  | .manual => "../manual/readme.md"
  | .filter => "warn"

/-- What it is among all settings. -/
def of (settings : Settings) : Setting → Bytes
  | .pager => Bytes.ofString settings.help.pager
  | .manual => settings.help.manual.bytes
  | .filter => Bytes.ofString settings.filter

theorem of_unset (setting : Setting) : setting.of {} = Bytes.ofString setting.standard := by
  cases setting <;> rfl

/-- A document gives the setting a value: in the table of its section under its key, or in the array
    of its section at its position. -/
inductive Gives (document : Toml.Entries) (setting : Setting) : Toml.Node → Prop
  /-- The section is a table. -/
  | field {origin : Toml.Origin} {entries : Toml.Entries} {node : Toml.Node} :
      (setting.table, .table origin entries) ∈ document → (setting.key, node) ∈ entries →
      Gives document setting node
  /-- It is an array. -/
  | item {items : List Toml.Node} {node : Toml.Node} :
      (setting.table, .array items) ∈ document → items[setting.position]? = some node →
      Gives document setting node

/-- The value of the setting in a section. -/
def in? (setting : Setting) : Option Toml.Node → Option Toml.Node
  | some (.table _ entries) => Toml.lookup entries setting.key
  | some (.array items) => items[setting.position]?
  | _ => none

/-- The value of the setting in a document. -/
def given? (setting : Setting) (document : Toml.Entries) : Option Toml.Node :=
  setting.in? (Toml.lookup document setting.table)

variable {setting : Setting} {document : Toml.Entries} {node : Toml.Node}

/-- What is found in a document is what it gives. -/
theorem given?_eq_some_iff (h : Toml.Distinct document) :
    setting.given? document = some node ↔ setting.Gives document node := by
  constructor
  · intro hgiven
    unfold given? in? at hgiven
    split at hgiven
    · rename_i hsection
      exact .field (Toml.mem_of_lookup hsection) (Toml.mem_of_lookup hgiven)
    · rename_i hsection
      exact .item (Toml.mem_of_lookup hsection) hgiven
    · cases hgiven
  · intro hgives
    cases hgives with
    | field hsection hfield =>
      cases h.wellKeyed hsection with
      | table hentries =>
        rw [given?, h.lookup_eq_some_iff.2 hsection]
        exact hentries.lookup_eq_some_iff.2 hfield
    | item hsection hitem =>
      rw [given?, h.lookup_eq_some_iff.2 hsection]
      exact hitem

/-- It gives a setting one value at most. -/
theorem Gives.unique {node' : Toml.Node} (h : Toml.Distinct document)
    (hgives : setting.Gives document node) (hgives' : setting.Gives document node') :
    node = node' :=
  Option.some.inj
    (((given?_eq_some_iff h).2 hgives).symm.trans ((given?_eq_some_iff h).2 hgives'))

end Setting

/-! ### Documents -/

namespace Settings

variable {document : Toml.Entries} {settings : Settings}

/-- A section has a value that is neither a table nor an array, or a setting has one that is no
    text. -/
def Misshapen (document : Toml.Entries) : Prop :=
  ∃ (setting : Setting) (node : Toml.Node),
    ((setting.table, node) ∈ document ∧ ¬ node.IsSection) ∨
      (setting.Gives document node ∧ ∀ content, node ≠ .text content)

/-- A document without what says a date or a time. -/
def undated (document : Toml.Entries) : Toml.Entries := document.filter (!·.2.isMoment)

/-- Whether what is found for a section is of no use there. -/
def isWrong : Option Toml.Node → Bool
  | none => false
  | some (.table _ _) => false
  | some (.array _) => false
  | some (.moment _) => false
  | some _ => true

theorem text?_eq_none_iff {node? : Option Toml.Node} :
    text? node? = none ↔ ∃ node, node? = some node ∧ ∀ content, node ≠ .text content := by
  rcases node? with _ | node
  · simp [text?]
  · cases node <;> simp [text?]

theorem mapM_one {α β : Type} (f : α → Option β) (a : α) :
    [a].mapM f = (f a).map fun x => [x] := by
  rw [List.mapM_cons, List.mapM_nil]
  cases f a <;> rfl

theorem mapM_two {α β : Type} (f : α → Option β) (a b : α) :
    [a, b].mapM f = (f a).bind fun x => (f b).map fun y => [x, y] := by
  rw [List.mapM_cons, mapM_one]
  cases f a <;> cases f b <;> rfl

/-- The texts of the section about the manual. -/
theorem texts?_help (node? : Option Toml.Node) :
    texts? ["pager", "manual"] node? =
      if isWrong node? then none
      else (text? (Setting.pager.in? node?)).bind fun pager =>
        (text? (Setting.manual.in? node?)).map fun manual => [pager, manual] := by
  rcases node? with _ | node
  · rfl
  · cases node with
    | table | array => exact mapM_two _ _ _
    | _ => rfl

/-- The texts of the section about logging. -/
theorem texts?_log (node? : Option Toml.Node) :
    texts? ["filter"] node? =
      if isWrong node? then none
      else (text? (Setting.filter.in? node?)).map fun filter => [filter] := by
  rcases node? with _ | node
  · rfl
  · cases node with
    | table | array => exact mapM_one _ _
    | _ => rfl

/-- A document gives settings exactly if no section is of no use and every setting that it gives is a
    text; each setting is then that text, or its own. -/
theorem ofEntries?_eq (document : Toml.Entries) :
    ofEntries? document =
      if isWrong (Toml.lookup document "help") ∨ isWrong (Toml.lookup document "log") then none
      else (text? (Setting.pager.given? document)).bind fun pager =>
        (text? (Setting.manual.given? document)).bind fun manual =>
          (text? (Setting.filter.given? document)).map fun filter =>
            { help :=
                { pager := pager.getD Setting.pager.standard
                  manual := Path.ofString (manual.getD Setting.manual.standard) }
              filter := filter.getD Setting.filter.standard } := by
  unfold ofEntries?
  rw [texts?_help, texts?_log]
  -- The sections are read one after the other, so the second may spoil what the first gave.
  simp only [Setting.given?, Setting.table]
  rcases isWrong (Toml.lookup document "help")
  · rcases isWrong (Toml.lookup document "log")
    · rcases text? (Setting.pager.in? (Toml.lookup document "help")) with _ | pager
      · rfl
      · rcases text? (Setting.manual.in? (Toml.lookup document "help")) with _ | manual
        · rfl
        · rcases text? (Setting.filter.in? (Toml.lookup document "log")) with _ | filter
          · rfl
          · cases manual <;> rfl
    · rcases text? (Setting.pager.in? (Toml.lookup document "help")) with _ | pager
      · rfl
      · rcases text? (Setting.manual.in? (Toml.lookup document "help")) with _ | manual <;> rfl
  · rfl

/-- A section is of no use if it has a value that is neither a table nor an array, nor a date. -/
theorem isWrong_iff (h : Toml.Distinct document) (name : String) :
    isWrong (Toml.lookup document name) = true ↔
      ∃ node, (name, node) ∈ undated document ∧ ¬ node.IsSection := by
  constructor
  · intro hwrong
    rcases hfound : Toml.lookup document name with _ | node
    · rw [hfound] at hwrong
      cases hwrong
    · rw [hfound] at hwrong
      have hmem := Toml.mem_of_lookup hfound
      refine ⟨node, List.mem_filter.2 ⟨hmem, ?_⟩, ?_⟩ <;> cases node <;>
        simp_all [isWrong, Toml.Node.isMoment, Toml.Node.IsSection]
  · rintro ⟨node, hmem, hsection⟩
    obtain ⟨hmem, hmoment⟩ := List.mem_filter.1 hmem
    rw [h.lookup_eq_some_iff.2 hmem]
    cases node <;> simp_all [isWrong, Toml.Node.isMoment, Toml.Node.IsSection]

/-- A date gives no setting a value. -/
theorem gives_undated {setting : Setting} {node : Toml.Node} :
    setting.Gives (undated document) node ↔ setting.Gives document node := by
  constructor
  · intro hgives
    cases hgives with
    | field hsection hfield => exact .field (List.mem_filter.1 hsection).1 hfield
    | item hsection hitem => exact .item (List.mem_filter.1 hsection).1 hitem
  · intro hgives
    cases hgives with
    | field hsection hfield => exact .field (List.mem_filter.2 ⟨hsection, rfl⟩) hfield
    | item hsection hitem => exact .item (List.mem_filter.2 ⟨hsection, rfl⟩) hitem

/-- Where a document gives settings, each is a text that is given, or its own. -/
theorem exists_text_of_ofEntries? (h : ofEntries? document = some settings) (setting : Setting) :
    ∃ value, text? (setting.given? document) = some value ∧
      setting.of settings = Bytes.ofString (value.getD setting.standard) := by
  rw [ofEntries?_eq] at h
  split_ifs at h
  obtain ⟨pager, hpager, h⟩ := Option.bind_eq_some_iff.1 h
  obtain ⟨manual, hmanual, h⟩ := Option.bind_eq_some_iff.1 h
  obtain ⟨filter, hfilter, rfl⟩ := Option.map_eq_some_iff.1 h
  cases setting with
  | pager => exact ⟨pager, hpager, rfl⟩
  | manual => exact ⟨manual, hmanual, rfl⟩
  | filter => exact ⟨filter, hfilter, rfl⟩

/-- It gives none exactly if a section is of no use, or a setting is no text. -/
theorem ofEntries?_eq_none : ofEntries? document = none ↔ ∃ setting : Setting,
    isWrong (Toml.lookup document setting.table) = true ∨
      text? (setting.given? document) = none := by
  constructor
  · intro hnone
    by_contra hall
    have hright := fun setting : Setting => not_or.1 fun hwrong => hall ⟨setting, hwrong⟩
    have hsections : ¬ (isWrong (Toml.lookup document "help") = true ∨
        isWrong (Toml.lookup document "log") = true) :=
      not_or.2 ⟨(hright .pager).1, (hright .filter).1⟩
    rw [ofEntries?_eq, if_neg hsections] at hnone
    obtain ⟨pager, hpager⟩ := Option.ne_none_iff_exists'.1 (hright .pager).2
    obtain ⟨manual, hmanual⟩ := Option.ne_none_iff_exists'.1 (hright .manual).2
    obtain ⟨filter, hfilter⟩ := Option.ne_none_iff_exists'.1 (hright .filter).2
    rw [hpager, hmanual, hfilter] at hnone
    cases hnone
  · rintro ⟨setting, hwrong | hnone⟩
    · rw [ofEntries?_eq, if_pos]
      cases setting with
      | pager | manual => exact .inl hwrong
      | filter => exact .inr hwrong
    · rcases hsettings : ofEntries? document with _ | settings
      · rfl
      · obtain ⟨value, hvalue, -⟩ := exists_text_of_ofEntries? hsettings setting
        rw [hnone] at hvalue
        cases hvalue

/-- **Nothing.** A document gives no settings exactly if, dates apart, it is misshapen. -/
theorem ofEntries?_eq_none_iff (h : Toml.Distinct document) :
    ofEntries? document = none ↔ Misshapen (undated document) := by
  rw [ofEntries?_eq_none]
  unfold Misshapen
  refine exists_congr fun setting => ?_
  rw [isWrong_iff h, text?_eq_none_iff, exists_or]
  simp only [Setting.given?_eq_some_iff h, gives_undated]

/-- **All.** Otherwise each setting has the text that the document gives it, or else its own. -/
theorem of_ofEntries? (h : Toml.Distinct document) (hsettings : ofEntries? document = some settings)
    (setting : Setting) :
    (∀ node, setting.Gives document node →
      ∃ content, node = .text content ∧ setting.of settings = Bytes.ofString content) ∧
    ((∀ node, ¬ setting.Gives document node) →
      setting.of settings = Bytes.ofString setting.standard) := by
  obtain ⟨value, hvalue, hof⟩ := exists_text_of_ofEntries? hsettings setting
  refine ⟨fun node hgives => ?_, fun hnone => ?_⟩
  · rw [(Setting.given?_eq_some_iff h).2 hgives] at hvalue
    cases node with
    | text content =>
      cases hvalue
      exact ⟨content, rfl, hof⟩
    | integer | float | boolean | moment | array | table | tables => cases hvalue
  · have hgiven : setting.given? document = none :=
      Option.eq_none_iff_forall_ne_some.2 fun node hnode =>
        hnone node ((Setting.given?_eq_some_iff h).1 hnode)
    rw [hgiven] at hvalue
    cases hvalue
    exact hof

/-- Documents that give a setting the same leave it the same, whatever else they say. -/
theorem of_congr {document' : Toml.Entries} {settings' : Settings} (h : Toml.Distinct document)
    (h' : Toml.Distinct document') (hsettings : ofEntries? document = some settings)
    (hsettings' : ofEntries? document' = some settings') {setting : Setting}
    (hsame : ∀ node, setting.Gives document' node ↔ setting.Gives document node) :
    setting.of settings' = setting.of settings := by
  obtain ⟨hgiven, hown⟩ := of_ofEntries? h hsettings setting
  obtain ⟨hgiven', hown'⟩ := of_ofEntries? h' hsettings' setting
  by_cases hgives : ∃ node, setting.Gives document node
  · obtain ⟨node, hnode⟩ := hgives
    obtain ⟨content, rfl, hof⟩ := hgiven node hnode
    obtain ⟨content', hcontent, hof'⟩ := hgiven' _ ((hsame _).2 hnode)
    cases hcontent
    rw [hof, hof']
  · have hnone : ∀ node, ¬ setting.Gives document node := not_exists.1 hgives
    rw [hown hnone, hown' fun node hnode => hnone node ((hsame node).1 hnode)]

end Settings

/-! ### Files -/

/-- The file at a path can be read, and holds the text. -/
def Host.Holds (h : Host) (path : Path) (text : String) : Prop :=
  ∃ node, h.world.files.openInput h.directory path = .ok node ∧
    h.world.files.content node = .ok (Bytes.ofString text)

namespace Settings

variable {h : Host} {path : Path} {text : String} {document : Toml.Entries}

/-- What is read is what the file holds. -/
theorem readText?_eq_some_iff : readText? h path = some text ↔ h.Holds path text := by
  unfold readText? Host.Holds
  rcases h.world.files.openInput h.directory path with cause | node
  · simp
  · dsimp only
    rcases hcontent : h.world.files.content node with reason | content
    · simp [hcontent]
    · simp [hcontent, Bytes.toString?_eq_some_iff]

theorem readText?_eq_none_iff : readText? h path = none ↔ ∀ text, ¬ h.Holds path text := by
  rw [Option.eq_none_iff_forall_ne_some]
  exact forall_congr' fun text => not_congr readText?_eq_some_iff

/-- A file that cannot be read as text is as good as none. -/
theorem loadFrom_of_unreadable (hnone : ∀ text, ¬ h.Holds path text) :
    loadFrom h path = ({}, none) := by
  rw [loadFrom, readText?_eq_none_iff.2 hnone]

/-- Any other one gives what its text says, or is warned about. -/
theorem loadFrom_of_holds (hholds : h.Holds path text) :
    loadFrom h path
      = ((ofText? text).map fun settings => (settings, none)).getD ({}, some (warning path)) := by
  simp only [loadFrom, readText?_eq_some_iff.2 hholds]
  cases ofText? text with
  | none => rfl
  | some _ => rfl

theorem ofText?_of_parse? (hparse : Toml.parse? text = some document) :
    ofText? text = ofEntries? document := by
  rw [ofText?, hparse, Option.bind_some]

/-- **All or nothing.** The settings of a session are read from one file:

* if it cannot be read, or is no text, all settings are their own, and nothing is said;
* if the text is no document, or one that, dates apart, is misshapen, all settings are their own too,
  and there is a warning with the path;
* otherwise there is no warning. The document gives each setting one value at most, a text, and that
  is what the setting is; one that it gives none is its own. So another document that gives a setting
  the same leaves it the same, whatever else it says, and in whatever order.

The warning goes to standard error output once, and the manual is shown as the settings say. -/
theorem load_all_or_nothing (sh : Shell) :
    let path := location sh.session.vars sh.host.accountHome
    let loaded := load sh.host sh.session.vars
    ((∀ text, ¬ sh.host.Holds path text) → loaded = ({}, none)) ∧
    (∀ text, sh.host.Holds path text →
      (Toml.parse? text = none → loaded = ({}, some (warning path))) ∧
      ∀ document, Toml.parse? text = some document →
        (Misshapen (undated document) → loaded = ({}, some (warning path))) ∧
        (¬ Misshapen (undated document) → loaded.2 = none ∧ ∀ setting : Setting,
          (∀ node node', setting.Gives document node → setting.Gives document node' →
            node = node') ∧
          (∀ node, setting.Gives document node →
            ∃ content, node = .text content ∧ setting.of loaded.1 = Bytes.ofString content) ∧
          ((∀ node, ¬ setting.Gives document node) →
            setting.of loaded.1 = Bytes.ofString setting.standard) ∧
          (∀ text' document', Toml.parse? text' = some document' →
            ¬ Misshapen (undated document') →
            (∀ node, setting.Gives document' node ↔ setting.Gives document node) →
            ∃ settings', ofText? text' = some settings' ∧
              setting.of settings' = setting.of loaded.1))) ∧
    (∀ setting : Setting, setting.of {} = Bytes.ofString setting.standard) ∧
    (∃ reason, warning path = "warning: failed to parse " ++ path.display ++ reason) ∧
    (Invocation.prepare sh).session.help = loaded.1.help ∧
    (Invocation.prepare sh).host.world.terminal.errors
      = (sh.complain (loaded.2.getD "")).host.world.terminal.errors := by
  intro path loaded
  refine ⟨loadFrom_of_unreadable, fun text hholds => ?_, Setting.of_unset,
    ⟨": no usable settings\n", rfl⟩, rfl, rfl⟩
  have hloaded : loaded = _ := loadFrom_of_holds hholds
  refine ⟨fun hnone => ?_, fun document hparse => ?_⟩
  · rw [hloaded, ofText?, hnone]
    rfl
  · have hdistinct := Toml.parse?_distinct hparse
    rw [ofText?_of_parse? hparse] at hloaded
    rcases hsettings : ofEntries? document with _ | settings
    · rw [hsettings] at hloaded
      exact ⟨fun _ => hloaded, fun hright =>
        absurd ((ofEntries?_eq_none_iff hdistinct).1 hsettings) hright⟩
    · -- Both are decided by the entries, since no key has two of them.
      rw [hsettings] at hloaded
      refine ⟨fun hwrong => ?_, fun _ => ?_⟩
      · rw [(ofEntries?_eq_none_iff hdistinct).2 hwrong] at hsettings
        cases hsettings
      · rw [hloaded]
        refine ⟨rfl, fun setting => ?_⟩
        obtain ⟨hgiven, hown⟩ := of_ofEntries? hdistinct hsettings setting
        refine ⟨fun node node' => Setting.Gives.unique hdistinct, hgiven, hown,
          fun text' document' hparse' hright' hsame => ?_⟩
        have hdistinct' := Toml.parse?_distinct hparse'
        obtain ⟨settings', hsettings'⟩ := Option.ne_none_iff_exists'.1
          (mt (ofEntries?_eq_none_iff hdistinct').1 hright')
        exact ⟨settings', (ofText?_of_parse? hparse').trans hsettings',
          of_congr hdistinct hdistinct' hsettings hsettings' hsame⟩

end Settings

/-! ### Two files -/

namespace Sample

open Settings

/-- Variables that name the file with the settings. -/
def settingsVars : Variables :=
  Variables.set {} (Bytes.ofString "MYSHELL_CONFIG") (Bytes.ofString "/c")

/-- A shell with these variables and a file of that name. -/
def configured (content : Bytes) : Shell :=
  { session := { vars := settingsVars, directory := .root }
    host := Machine.host
      ⟨#[.directory [(Bytes.ofString "c", 1)], .file 0o644 content]⟩ .root }

theorem location_settingsVars :
    location settingsVars (Path.ofString "/root") = Path.ofString "/c" := by
  decide +kernel

theorem configured_holds (text : String) :
    (configured (Bytes.ofString text)).host.Holds
      (location settingsVars (Path.ofString "/root")) text := by
  rw [location_settingsVars]
  have hstraight : (configured (Bytes.ofString text)).host.world.files.Straight
      (Location.root.child (Bytes.ofString "c") 1) :=
    .child .root rfl rfl rfl (by decide) (by decide) (by decide) (fun _ h => by cases h)
  have hopened : (configured (Bytes.ofString text)).host.world.files.openInput .root
      (Path.ofString "/c") = .ok 1 := by
    refine FileSystem.guarded_eq_ok.2 ⟨by decide, ?_⟩
    exact congrArg (Except.map Location.node) (hstraight.locate rfl (by decide) .root)
  exact ⟨1, hopened, rfl⟩

/-- A document that begins with no mark is read statement by statement. -/
theorem parse?_of_statements {text : String} {lines : Nat} {statements : List Toml.Statement}
    {document : Toml.Entries} (hlength : text.toList.length = lines)
    (hmark : (text.toList.head? == some Toml.byteOrderMark) = false)
    (hread : Toml.statementsFrom lines text.toList = some statements)
    (hrun : Toml.run statements = some document) : Toml.parse? text = some document := by
  rw [Toml.parse?, Toml.statements?, if_neg (Bool.eq_false_iff.1 hmark), hlength, hread,
    Option.bind_some, hrun]

/-- Settings after a section with an unknown key. -/
def sectioned : String := "[log]\nlevel = 3\n[help]\npager = \"less\"\n"

/-- What they say. -/
def sections : Toml.Entries :=
  [("log", .table .written [("level", .integer 3)]),
    ("help", .table .written [("pager", .text "less")])]

theorem parse?_sectioned : Toml.parse? sectioned = some sections :=
  @parse?_of_statements _ 38 [.header [] "log", .assignment [] "level" (.integer 3),
    .header [] "help", .assignment [] "pager" (.text "less")] _ (by decide +kernel)
    (by decide +kernel) (by cbv) rfl

/-- One setting is given, and the others are their own. -/
theorem sectioned_loaded :
    let sh := configured (Bytes.ofString sectioned)
    let loaded := load sh.host sh.session.vars
    sh.host.Holds (location sh.session.vars sh.host.accountHome) sectioned ∧
    Toml.parse? sectioned = some sections ∧ ¬ Misshapen (undated sections) ∧
    loaded.2 = none ∧ Setting.pager.of loaded.1 = Bytes.ofString "less" ∧
    Setting.manual.of loaded.1 = Bytes.ofString "../manual/readme.md" ∧
    Setting.filter.of loaded.1 = Bytes.ofString "warn" := by
  intro sh loaded
  have hdistinct := Toml.parse?_distinct parse?_sectioned
  have hright : ¬ Misshapen (undated sections) := by
    have hsettings : ofEntries? sections = some { help := { pager := "less" } } := by
      decide +kernel
    rw [← ofEntries?_eq_none_iff hdistinct, hsettings]
    exact Option.some_ne_none _
  have hgiven : ∀ setting : Setting, (∀ node, ¬ setting.Gives sections node) ↔
      setting.given? sections = none := by
    intro setting
    rw [Option.eq_none_iff_forall_ne_some]
    exact forall_congr' fun node => not_congr (Setting.given?_eq_some_iff hdistinct).symm
  obtain ⟨hnone, hvalues⟩ :=
    (((load_all_or_nothing sh).2.1 sectioned (configured_holds _)).2 sections
      parse?_sectioned).2 hright
  obtain ⟨content, hcontent, hpager⟩ := (hvalues .pager).2.1 (.text "less")
    ((Setting.given?_eq_some_iff hdistinct).1 rfl)
  cases hcontent
  exact ⟨configured_holds _, parse?_sectioned, hright, hnone, hpager,
    (hvalues .manual).2.2.1 ((hgiven .manual).2 rfl),
    (hvalues .filter).2.2.1 ((hgiven .filter).2 rfl)⟩

/-- A date in place of a section. -/
def dated : String := "help = 1979-05-27\n[log]\nfilter = \"info\"\n"

/-- What it says. -/
def datedSections : Toml.Entries :=
  [("help", .moment "1979-05-27"), ("log", .table .written [("filter", .text "info")])]

theorem parse?_dated : Toml.parse? dated = some datedSections :=
  @parse?_of_statements _ 40 [.assignment [] "help" (.moment "1979-05-27"), .header [] "log",
    .assignment [] "filter" (.text "info")] _ (by decide +kernel) (by decide +kernel) (by cbv)
    rfl

/-- A document with a date in place of a section is misshapen, but there is no warning about it, and
    the other section counts. -/
theorem dated_loaded :
    let sh := configured (Bytes.ofString dated)
    let path := location sh.session.vars sh.host.accountHome
    sh.host.Holds path dated ∧ Toml.parse? dated = some datedSections ∧ Misshapen datedSections ∧
    load sh.host sh.session.vars = ({ filter := "info" }, none) ∧
    load sh.host sh.session.vars ≠ ({}, some (warning path)) := by
  intro sh path
  have hwrong : Misshapen datedSections :=
    ⟨.pager, .moment "1979-05-27", .inl ⟨List.mem_cons_self, id⟩⟩
  have hloaded : load sh.host sh.session.vars = ({ filter := "info" }, none) := by
    have hsettings : ofText? dated = some { filter := "info" } := by
      rw [ofText?_of_parse? parse?_dated]
      decide +kernel
    have hload := loadFrom_of_holds (configured_holds dated)
    rw [hsettings] at hload
    exact hload
  refine ⟨configured_holds _, parse?_dated, hwrong, hloaded, fun hwarned => ?_⟩
  rw [hloaded] at hwarned
  cases (Prod.mk.inj hwarned).2

end Sample

end CommandShell
