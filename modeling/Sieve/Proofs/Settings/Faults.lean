import Sieve.Proofs.Settings.Load

/-!
Why there are no settings, where that is not reported.

A missing file of settings and bad values are reported. Not so a variable that has to be JSON and is
none, one with too much inside each other, a file of variables that is no text, a key that is no text
or a parameter that is refused, and a file of settings that is no text, holds a scalar without a
value, or has too much inside each other.
-/

namespace Sieve.Settings

open Value Files Log

/-! ### Variables -/

namespace Variables

variable {t : Table} {form : Form} {field s : String} {source : Source} {reason : Json.Fault}
  {f : SourceFault}

/-- A text has a first piece, which is all of it if there is no other one. -/
lemma exists_splitParts (l : List Char) :
    ∃ p ps, splitParts l = p :: ps ∧ (ps = [] → p = l) := by
  induction l using splitParts.induct with
  | case1 => exact ⟨[], [], rfl, fun _ => rfl⟩
  | case2 r ih =>
    obtain ⟨p, ps, hr, -⟩ := ih
    exact ⟨[], p :: ps, by rw [splitParts, hr], by simp⟩
  | case3 c r hc hnil ih =>
    obtain ⟨p, ps, hr, -⟩ := ih
    rw [hnil] at hr
    cases hr
  | case4 c r hc p ps hr ih =>
    obtain ⟨p', ps', hr', hall⟩ := ih
    obtain ⟨rfl, rfl⟩ := List.cons.inj (hr.symm.trans hr')
    refine ⟨c :: p, ps, ?_, fun hps => by rw [hall hps]⟩
    rw [splitParts, hr]
    exact hc

/-- The pieces of a text are that of one that has no other. -/
lemma map_splitParts_eq_iff {l : List Char} {word : String}
    (hword : splitParts word.toList = [word.toList]) :
    (splitParts l).map String.ofList = [word] ↔ l = word.toList := by
  constructor
  · intro h
    obtain ⟨p, ps, hl, hall⟩ := exists_splitParts l
    rw [hl, List.map_cons, List.cons.injEq, List.map_eq_nil_iff] at h
    rw [← hall h.2, ← h.1, String.toList_ofList]
  · rintro rfl
    rw [hword, List.map_singleton, String.ofList_toList]

/-- How the names of the parts of a field begin. -/
def partStart (field : String) : String := start ++ field ++ separator

/-- The pieces of a name behind that. -/
def partPath (field name : String) : List String :=
  (splitParts (name.toList.drop (partStart field).toList.length)).map String.ofList

/-- The name of the variable that holds the levels of modules. -/
def levelsName (field : String) : String := partStart field ++ "module_levels"

lemma isPrefixOf_and_drop_eq_iff {head word : String} {l : List Char} :
    head.toList.isPrefixOf l = true ∧ l.drop head.toList.length = word.toList ↔
      l = (head ++ word).toList := by
  rw [List.isPrefixOf_iff_prefix, String.toList_append]
  constructor
  · rintro ⟨⟨rest, rfl⟩, hrest⟩
    rw [List.drop_left] at hrest
    rw [hrest]
  · rintro rfl
    exact ⟨List.prefix_append _ _, List.drop_left⟩

lemma eq_levelsName_iff {name : String} :
    (partStart field).toList.isPrefixOf name.toList = true ∧
      partPath field name = ["module_levels"] ↔ name = levelsName field := by
  rw [partPath, map_splitParts_eq_iff (by decide), isPrefixOf_and_drop_eq_iff]
  exact String.toList_inj

/-- Why a text cannot be read as JSON counts for the value of a form: any reason where only JSON
will do, and where a text will do too, that too much lies inside each other. -/
def Counts : Form → Json.Fault → Prop
  | .text, _ => False
  | .patterns, reason => reason = .depth
  | .dictionary, _ | .record, _ => True

lemma jsonOrText_eq_error_iff :
    jsonOrText s = .error reason ↔ json s = .error reason ∧ reason = .depth := by
  unfold jsonOrText
  rcases json s with (_ | _) | v <;> cases reason <;> simp

lemma wholeValue_eq_error_iff :
    wholeValue form s = .error reason ↔ json s = .error reason ∧ Counts form reason := by
  cases form <;> simp [wholeValue, Counts, jsonOrText_eq_error_iff]

lemma wholeValue_eq_map_iff {es : List (Value × Value)} :
    wholeValue form s = .ok (.map es) ↔ form ≠ .text ∧ json s = .ok (.map es) := by
  cases form with
  | patterns =>
    unfold wholeValue jsonOrText
    rcases json s with (_ | _) | v <;> simp
  | _ => simp [wholeValue]

/-- Why a variable for a part of a field cannot be read. The levels of modules have to be JSON. What
lies further inside a dictionary is JSON or a text. -/
inductive SpoilsPart (field : String) : Form → EnvFile.Binding → Json.Fault → Prop
  | levels {s : String} {reason : Json.Fault} : s ≠ "" → json s = .error reason →
    SpoilsPart field .record (levelsName field, some s) reason
  | inside {name s : String} : (partStart field).toList <+: name.toList →
    1 < (partPath field name).length → s ≠ "" → json s = .error .depth →
    SpoilsPart field .dictionary (name, some s) .depth

lemma partValue_eq_error_iff {path : List String} {v : Option String} :
    partValue form path v = .error reason ↔ ∃ s, v = some s ∧ s ≠ "" ∧ json s = .error reason ∧
      (form = .record ∧ path = ["module_levels"] ∨
        form = .dictionary ∧ 1 < path.length ∧ reason = .depth) := by
  unfold partValue
  rcases v with _ | s
  · simp
  · simp only [Option.some.injEq, exists_eq_left', ← String.isEmpty_eq_false_iff]
    split_ifs with hnested hlevels
    · simp only [Bool.and_eq_true, decide_eq_true_eq, Bool.not_eq_true'] at hnested
      simp [jsonOrText_eq_error_iff, hnested]
    · simp only [Bool.and_eq_true, decide_eq_true_eq, Bool.not_eq_true'] at hlevels
      simp [hlevels]
    · simp only [Bool.and_eq_true, decide_eq_true_eq, Bool.not_eq_true'] at hnested hlevels
      refine iff_of_false (by simp) ?_
      rintro ⟨hs, -, hrecord | ⟨hform, hpath, -⟩⟩
      · exact hlevels ⟨hrecord, hs⟩
      · exact hnested ⟨⟨hform, hpath⟩, hs⟩

lemma spoilsPart_iff {name : String} {v : Option String} :
    SpoilsPart field form (name, v) reason ↔
      (partStart field).toList.isPrefixOf name.toList = true ∧
        partValue form (partPath field name) v = .error reason := by
  rw [partValue_eq_error_iff]
  constructor
  · rintro (⟨hs, hjson⟩ | ⟨hstart, hpath, hs, hjson⟩)
    · obtain ⟨hstart, hlevels⟩ := eq_levelsName_iff.mpr rfl
      exact ⟨hstart, _, rfl, hs, hjson, Or.inl ⟨rfl, hlevels⟩⟩
    · exact ⟨List.isPrefixOf_iff_prefix.mpr hstart, _, rfl, hs, hjson, Or.inr ⟨rfl, hpath, rfl⟩⟩
  · rintro ⟨hstart, s, rfl, hs, hjson, ⟨rfl, hlevels⟩ | ⟨rfl, hpath, rfl⟩⟩
    · obtain rfl := eq_levelsName_iff.mp ⟨hstart, hlevels⟩
      exact .levels hs hjson
    · exact .inside (List.isPrefixOf_iff_prefix.mp hstart) hpath hs hjson

/-- The parts of a field cannot be read where a variable for one of them cannot. -/
lemma parts_eq_error_iff :
    parts field form t = .error reason ↔ FirstFails (SpoilsPart field form) t reason := by
  refine foldlM_eq_error_iff fun es b reason => ?_
  rw [spoilsPart_iff]
  change (if (partStart field).toList.isPrefixOf b.1.toList = true then
    (partValue form (partPath field b.1) b.2).map fun value =>
      Value.insertAt es (partPath field b.1) value
    else .ok es) = _ ↔ _
  by_cases hstart : (partStart field).toList.isPrefixOf b.1.toList = true
  · rw [if_pos hstart, map_eq_error_iff]
    exact (and_iff_right hstart).symm
  · rw [if_neg hstart]
    exact iff_of_false (by simp) fun h => hstart h.1

/-- A field that is a text has no parts. -/
lemma form_ne_text_of_firstFails (h : FirstFails (SpoilsPart field form) t reason) :
    form ≠ .text := by
  induction h with
  | here h => cases h <;> simp
  | there _ _ ih => exact ih

/-- Why the value of a field cannot be read: the value of the whole field cannot, or one of its
parts, which are read unless the whole is something else than a mapping. -/
inductive Unreadable (t : Table) : Form → String → Json.Fault → Prop
  | whole {form : Form} {field s : String} {reason : Json.Fault} :
    (t.lookup (start ++ field)).join = some s → json s = .error reason → Counts form reason →
    Unreadable t form field reason
  | part {form : Form} {field : String} {reason : Json.Fault} :
    (∀ s, (t.lookup (start ++ field)).join = some s → ∃ es, json s = .ok (.map es)) →
    FirstFails (SpoilsPart field form) t reason → Unreadable t form field reason

lemma fieldValue_of_parts (hs : (t.lookup (start ++ field)).join = none) :
    fieldValue form field t = .error reason ↔
      form ≠ .text ∧ FirstFails (SpoilsPart field form) t reason := by
  unfold fieldValue
  rw [hs, ← parts_eq_error_iff]
  by_cases hform : form = .text
  · simp [hform]
  · simp [hform, map_eq_error_iff]

lemma fieldValue_of_whole (hs : (t.lookup (start ++ field)).join = some s) :
    fieldValue form field t = .error reason ↔ wholeValue form s = .error reason ∨
      (∃ es, wholeValue form s = .ok (.map es)) ∧ FirstFails (SpoilsPart field form) t reason := by
  unfold fieldValue
  rw [hs, ← parts_eq_error_iff]
  dsimp only
  rcases wholeValue form s with g | v
  · simp
  · cases v <;> simp [map_eq_error_iff]

lemma fieldValue_eq_error_iff :
    fieldValue form field t = .error reason ↔ Unreadable t form field reason := by
  rcases hs : (t.lookup (start ++ field)).join with _ | s
  · rw [fieldValue_of_parts hs]
    constructor
    · exact fun h => .part (by simp [hs]) h.2
    · rintro (⟨hs', -⟩ | ⟨-, h⟩)
      · rw [hs] at hs'
        cases hs'
      · exact ⟨form_ne_text_of_firstFails h, h⟩
  · simp only [fieldValue_of_whole hs, wholeValue_eq_error_iff, wholeValue_eq_map_iff]
    constructor
    · rintro (⟨hjson, hcounts⟩ | ⟨⟨es, -, hes⟩, h⟩)
      · exact .whole hs hjson hcounts
      · exact .part (fun s' hs' => ⟨es, Option.some.inj (hs.symm.trans hs') ▸ hes⟩) h
    · rintro (⟨hs', hjson, hcounts⟩ | ⟨hmap, h⟩)
      · obtain rfl := Option.some.inj (hs.symm.trans hs')
        exact Or.inl ⟨hjson, hcounts⟩
      · obtain ⟨es, hes⟩ := hmap s hs
        exact Or.inr ⟨⟨es, form_ne_text_of_firstFails h, hes⟩, h⟩

/-- The first of the fields in the list whose value cannot be read. -/
def FirstUnreadable (t : Table) (l : List (String × Form)) (field : String) (reason : Json.Fault) :
    Prop :=
  FirstFails (fun (x : String × Form) (e : String × Json.Fault) =>
    x.1 = e.1 ∧ Unreadable t x.2 x.1 e.2) l (field, reason)

lemma entriesOf_eq_error_iff {l : List (String × Form)} :
    entriesOf source t l = .error f ↔
      f.source = source ∧ FirstUnreadable t l f.field f.reason := by
  simp only [FirstUnreadable, ← fieldValue_eq_error_iff]
  induction l with
  | nil => exact iff_of_false (by simp [entriesOf]) fun h => nomatch h.2
  | cons e l ih =>
    obtain ⟨field, form⟩ := e
    simp only [firstFails_cons_iff, Prod.forall, not_and]
    rw [entriesOf]
    rcases fieldValue form field t with reason | _ | v
    · obtain ⟨name, origin, reason'⟩ := f
      simp [throw, throwThe, MonadExceptOf.throw, and_comm, eq_comm, and_assoc]
    · simpa using ih
    · have hbind : (do return (Value.str field, renamed form v) :: (← entriesOf source t l)) =
          .error f ↔ entriesOf source t l = .error f := by
        rcases entriesOf source t l with f' | es <;> simp [bind, Except.bind, pure, Except.pure]
      simpa using hbind.trans ih

/-- **Variables give no entries** where the value of a field cannot be read. -/
theorem entries_eq_error_iff :
    entries source t = .error f ↔
      f.source = source ∧ FirstUnreadable t fields f.field f.reason := by
  rw [← entriesOf_eq_error_iff, entries]
  rcases entriesOf source t fields with f' | es <;> simp [bind, Except.bind, pure, Except.pure]

end Variables

variable {s : Surroundings} {path : Option Path} {given file : List (Value × Value)}
  {f : LoadFault}

/-- The variables of the process. -/
def processTable (s : Surroundings) : Variables.Table :=
  .ofBindings (s.environment.map fun (k, v) => (k, some v))

/-- Why there are no variables: their file is no text, or the value of a field cannot be read, in
the process or else in the file. -/
inductive VariablesFail (s : Surroundings) : LoadFault → Prop
  | undecodable {bytes : List UInt8} {f : Text.Utf8.Fault} :
    s.tree.bytesAt s.cwd ⟨.here, [envFileName]⟩ = .ok bytes →
    Text.Utf8.readText bytes = .error f → VariablesFail s (.file (.undecodable f))
  | process {bindings : List EnvFile.Binding} {field : String} {reason : Json.Fault} :
    envFile s = .ok bindings →
    Variables.FirstUnreadable (processTable s) Variables.fields field reason →
    VariablesFail s (.source ⟨field, .process, reason⟩)
  | file {bindings : List EnvFile.Binding} {field : String} {reason : Json.Fault} :
    envFile s = .ok bindings →
    (∀ name why, ¬ Variables.FirstUnreadable (processTable s) Variables.fields name why) →
    Variables.FirstUnreadable (.ofBindings bindings) Variables.fields field reason →
    VariablesFail s (.source ⟨field, .file, reason⟩)

lemma envFile_eq_error_iff {f : FileFault} :
    envFile s = .error f ↔ ∃ bytes e, s.tree.bytesAt s.cwd ⟨.here, [envFileName]⟩ = .ok bytes ∧
      Text.Utf8.readText bytes = .error e ∧ f = .undecodable e := by
  unfold envFile
  rcases s.tree.bytesAt s.cwd ⟨.here, [envFileName]⟩ with c | bytes
  · simp
  · rcases htext : Text.Utf8.readText bytes with e | text <;> simp [htext, eq_comm]

lemma variableEntries_eq_error_iff : variableEntries s = .error f ↔ VariablesFail s f := by
  unfold variableEntries
  change ((envFile s).mapError LoadFault.file).bind (fun bindings =>
    ((Variables.entries .process (processTable s)).mapError LoadFault.source).bind fun es =>
      ((Variables.entries .file (.ofBindings bindings)).mapError LoadFault.source).bind fun es' =>
        .ok (deepEntries es es')) = _ ↔ _
  simp only [bind_eq_error_iff, mapError_eq_error_iff, mapError_eq_ok_iff, envFile_eq_error_iff,
    Variables.entries_eq_error_iff, reduceCtorEq, and_false, exists_const, or_false]
  have hprocess : ∀ es, Variables.entries .process (processTable s) = .ok es →
      ∀ name why, ¬ Variables.FirstUnreadable (processTable s) Variables.fields name why := by
    intro es hes name why hname
    have herror := (Variables.entries_eq_error_iff (f := ⟨name, .process, why⟩)).mpr ⟨rfl, hname⟩
    rw [hes] at herror
    cases herror
  constructor
  · rintro (⟨_, ⟨bytes, e, hbytes, he, rfl⟩, rfl⟩ |
      ⟨bindings, hbindings, ⟨⟨field, source, reason⟩, ⟨rfl, hfirst⟩, rfl⟩ |
        ⟨es, hes, ⟨field, source, reason⟩, ⟨rfl, hfirst⟩, rfl⟩⟩)
    · exact .undecodable hbytes he
    · exact .process hbindings hfirst
    · exact .file hbindings (hprocess es hes) hfirst
  · rintro (⟨hbytes, he⟩ | ⟨hbindings, hfirst⟩ | ⟨hbindings, hnone, hfirst⟩)
    · exact Or.inl ⟨_, ⟨_, _, hbytes, he, rfl⟩, rfl⟩
    · exact Or.inr ⟨_, hbindings, Or.inl ⟨_, ⟨rfl, hfirst⟩, rfl⟩⟩
    · refine Or.inr ⟨_, hbindings, Or.inr ?_⟩
      rcases hes : Variables.entries .process (processTable s) with f | es
      · exact absurd (Variables.entries_eq_error_iff.mp hes).2 (hnone _ _)
      · exact ⟨es, rfl, _, ⟨rfl, hfirst⟩, rfl⟩

/-! ### Files of settings -/

/-- A file of settings that is no text as far as it is read, or has something in it without a
value. -/
inductive FileFails (t : Tree) (base p : Path) : FileFault → Prop
  | undecodable {bytes : List UInt8} {f : Text.Utf8.Fault} : t.bytesAt base p = .ok bytes →
    readDocument bytes = .error (.undecodable f) → FileFails t base p (.undecodable f)
  | noValue {bytes : List UInt8} {message : String} {kind : Yaml.Failure} :
    t.bytesAt base p = .ok bytes → readDocument bytes = .error (.failed kind message) →
    FileFails t base p (.noValue kind message)

lemma value_entriesOf_eq_error_iff {p : Path} {bytes : List UInt8} {f : FileFault} :
    (ConfigFile.entriesOf p bytes).value = .error f ↔
      (∃ e, readDocument bytes = .error (.undecodable e) ∧ f = .undecodable e) ∨
      ∃ kind message, readDocument bytes = .error (.failed kind message) ∧
        f = .noValue kind message := by
  unfold ConfigFile.entriesOf
  rcases readDocument bytes with e | v
  · cases e <;> simp [eq_comm]
  · cases v <;> simp

lemma value_load_eq_error_iff {t : Tree} {base p : Path} {f : FileFault} :
    (ConfigFile.load t base p).value = .error f ↔ FileFails t base p f := by
  have hload : (ConfigFile.load t base p).value = .error f ↔
      ∃ bytes, t.bytesAt base p = .ok bytes ∧ (ConfigFile.entriesOf p bytes).value = .error f := by
    unfold ConfigFile.load
    rcases t.bytesAt base p with c | bytes <;> simp
  rw [hload]
  simp only [value_entriesOf_eq_error_iff]
  constructor
  · rintro ⟨bytes, hbytes, ⟨e, hdoc, rfl⟩ | ⟨kind, message, hdoc, rfl⟩⟩
    · exact .undecodable hbytes hdoc
    · exact .noValue hbytes hdoc
  · rintro (⟨hbytes, hdoc⟩ | ⟨hbytes, hdoc⟩)
    · exact ⟨_, hbytes, Or.inl ⟨_, hdoc, rfl⟩⟩
    · exact ⟨_, hbytes, Or.inr ⟨_, _, hdoc, rfl⟩⟩

/-! ### Settings -/

/-- A missing file and bad values are reported. -/
def LoadFault.IsReported : LoadFault → Prop
  | .missing _ | .invalid _ => True
  | _ => False

/-- What is read of a file that is named; nothing if none is. -/
inductive Reads (s : Surroundings) : Option Path → List (Value × Value) → Prop
  | unnamed : Reads s none []
  | named {p : Path} {file : List (Value × Value)} : s.tree.existsAt s.cwd p = true →
    (ConfigFile.load s.tree s.cwd p).value = .ok file → Reads s (some p) file

/-- No entry keeps a file of settings from being looked for. -/
def LooksForFile (es : List (Value × Value)) : Prop :=
  ((lookup es Variables.skipKey).getD .null).isTruthy = false

/-- No parameter in a file that is named is followed. -/
def FollowsNothing (s : Surroundings) (path : Option Path) : Prop :=
  ∀ file, Reads s path file → Parameter.instruction? file = none

lemma followsNothing_none : FollowsNothing s none := by
  rintro file ⟨⟩
  rfl

/-- Why settings cannot be loaded, where that is not reported. A bad value in a file that is found
counts as a bad value, any other one does not. -/
inductive Unloadable (s : Surroundings) (path : Option Path) (given : List (Value × Value)) :
    LoadFault → Prop
  | named {p : Path} {f : FileFault} : path = some p → s.tree.existsAt s.cwd p = true →
    FileFails s.tree s.cwd p f → Unloadable s path given (.file f)
  | key {file : List (Value × Value)} : Reads s path file → ¬ HasTextKeys file →
    Unloadable s path given .keyType
  | parameter {file : List (Value × Value)} {message : String} : Reads s path file →
    HasTextKeys file → Parameter.refusal? file = some message →
    Unloadable s path given (.parameter message)
  | vars {file : List (Value × Value)} {f : LoadFault} : Reads s path file →
    HasTextKeys file → Parameter.refusal? file = none → VariablesFail s f →
    Unloadable s path given f
  | late {file ves : List (Value × Value)} {message : String} : Reads s path file →
    HasTextKeys file → Parameter.refusal? file = none → variableEntries s = .ok ves →
    Parameter.lateRefusal? file = some message → Unloadable s path given (.parameter message)
  | found {file ves : List (Value × Value)} {p : Path} {kind : Yaml.Failure} {message : String} :
    Reads s path file → HasTextKeys file → Parameter.refusal? file = none →
    variableEntries s = .ok ves → Parameter.lateRefusal? file = none →
    LooksForFile (deepEntries (renameGiven (passed path file given)) ves) →
    ConfigFile.find? s.tree s.cwd = some p →
    FileFails s.tree s.cwd p (.noValue kind message) → kind ≠ .value →
    Unloadable s path given (.file (.noValue kind message))

lemma hasTextKeys_passed_iff (h : Reads s path file) (hgiven : HasTextKeys given) :
    HasTextKeys (passed path file given) ↔ HasTextKeys file := by
  cases h with
  | unnamed => exact iff_of_true hgiven (List.forall_mem_nil _)
  | named hexists hload =>
    have hskip : HasTextKeys [(.str Variables.skipKey, .bool true)] :=
      List.forall_mem_singleton.mpr ⟨_, rfl⟩
    have hover : HasTextKeys (overNamed file given) ↔ HasTextKeys file := by
      unfold overNamed
      split
      · rw [hasTextKeys_put_iff, hasTextKeys_overlay_iff, and_iff_left hgiven]
      · rw [hasTextKeys_overlay_iff, and_iff_left hgiven]
    rw [passed, hasTextKeys_overlay_iff, and_iff_right hskip, hover]

/-- The parameters that are passed on are those of the file. -/
lemma lookup_passed_parameter (h : Reads s path file) (hdistinct : HasDistinctKeys given)
    (hgiven : HasNoParameters given) {name : String} (hname : Parameter.IsName name) :
    lookup (passed path file given) name = lookup file name := by
  cases h with
  | unnamed => exact hgiven name hname
  | named _ hload =>
    rw [passed, lookup_overlay (hasDistinctKeys_overNamed (isFilled_of_load hload).1),
      lookup_overNamed hname.ne_env hdistinct, hgiven name hname, Option.none_or, lookup_cons,
      if_neg (by simpa [string?] using hname.ne_skipKey.symm)]
    simp [lookup]

lemma withFoundFile_eq_error_iff {es : List (Value × Value)} :
    (withFoundFile s es).value = .error f ↔
      LooksForFile es ∧ ∃ p e, ConfigFile.find? s.tree s.cwd = some p ∧
        FileFails s.tree s.cwd p e ∧ f = ofFileFault e := by
  unfold withFoundFile LooksForFile
  simp only [← value_load_eq_error_iff]
  rcases ((lookup es Variables.skipKey).getD .null).isTruthy with _ | _
  · rcases ConfigFile.find? s.tree s.cwd with _ | p
    · simp
    · simp only [Bool.false_eq_true, if_false, Logged.value_bind]
      rcases hload : (ConfigFile.load s.tree s.cwd p).value with e | file
      · simpa [hload] using eq_comm
      · simp [hload]
  · simp

lemma isReported_ofFileFault_iff {e : FileFault} :
    ¬ (ofFileFault e).IsReported ↔
      ∃ kind message, e = .noValue kind message ∧ kind ≠ .value ∧ ofFileFault e = .file e := by
  cases e with
  | undecodable f => simp [ofFileFault, LoadFault.IsReported]
  | noValue kind message => cases kind <;> simp [ofFileFault, LoadFault.IsReported]

lemma value_load (h : Reads s path file) :
    (load s path given).value = (build s (passed path file given)).value := by
  cases h with
  | unnamed => rfl
  | named hexists hload => exact value_load_named hexists hload

lemma value_load_of_missing {p : Path} (h : s.tree.existsAt s.cwd p = false) :
    (load s (some p) given).value = .error (.missing p) := by
  unfold load
  simp only [h]
  rfl

lemma value_load_of_fails {p : Path} {e : FileFault} (hexists : s.tree.existsAt s.cwd p = true)
    (h : FileFails s.tree s.cwd p e) : (load s (some p) given).value = .error (.file e) := by
  unfold load
  simp only [hexists, Bool.not_true, Bool.false_eq_true, if_false]
  rw [Logged.value_bind, value_load_eq_error_iff.mpr h]
  rfl

lemma not_isReported_of_variablesFail (h : VariablesFail s f) : ¬ f.IsReported := by
  cases h <;> exact id

/-- A file that is found fails unreported with more than a bad value. -/
lemma withFoundFile_unreported_iff {es : List (Value × Value)} :
    (withFoundFile s es).value = .error f ∧ ¬ f.IsReported ↔
      LooksForFile es ∧ ∃ p kind message, ConfigFile.find? s.tree s.cwd = some p ∧
        FileFails s.tree s.cwd p (.noValue kind message) ∧ kind ≠ .value ∧
        f = .file (.noValue kind message) := by
  rw [withFoundFile_eq_error_iff]
  constructor
  · rintro ⟨⟨hlooks, p, e, hfind, he, rfl⟩, hnot⟩
    obtain ⟨kind, message, rfl, hkind, hfile⟩ := isReported_ofFileFault_iff.mp hnot
    exact ⟨hlooks, p, kind, message, hfind, he, hkind, hfile⟩
  · rintro ⟨hlooks, p, kind, message, hfind, he, hkind, rfl⟩
    have hfile : ofFileFault (.noValue kind message) = .file (.noValue kind message) := by
      cases kind <;> first | rfl | exact absurd rfl hkind
    exact ⟨⟨hlooks, p, _, hfind, he, hfile.symm⟩, id⟩

/-- Entries that can be given fail unreported for variables, for a parameter, or for a file that is
found. -/
lemma build_unreported_iff (hfault : givenFault? given = none) :
    (build s given).value = .error f ∧ ¬ f.IsReported ↔ VariablesFail s f ∨
      ∃ ves, variableEntries s = .ok ves ∧
        ((∃ message, Parameter.lateRefusal? given = some message ∧ f = .parameter message) ∨
          Parameter.lateRefusal? given = none ∧
            (withFoundFile s (deepEntries (renameGiven given) ves)).value = .error f ∧
              ¬ f.IsReported) := by
  rw [← variableEntries_eq_error_iff]
  have hvars : variableEntries s = .error f → ¬ f.IsReported := fun h =>
    not_isReported_of_variablesFail (variableEntries_eq_error_iff.mp h)
  rcases hlate : Parameter.lateRefusal? given with _ | message
  · rw [value_build (areTaken_iff.mpr ⟨hfault, hlate⟩), gather_eq]
    rcases hves : variableEntries s with f' | ves
    · simpa [Except.map, Except.bind, hves] using hvars
    · change (withFoundFile s (deepEntries (renameGiven given) ves)).value.bind _ = _ ∧ _ ↔ _
      simp only [bind_eq_error_iff, mapError_eq_error_iff, reduceCtorEq, false_or,
        Except.ok.injEq, exists_eq_left', exists_false, true_and, false_and]
      constructor
      · rintro ⟨hfound | ⟨es, -, issues, -, rfl⟩, hnot⟩
        · exact ⟨hfound, hnot⟩
        · exact absurd trivial hnot
      · exact fun h => ⟨Or.inl h.1, h.2⟩
  · rw [value_build_of_late hfault hlate, gather_eq]
    rcases hves : variableEntries s with f' | ves
    · simpa [Except.map, Except.bind, hves] using hvars
    · change Except.error (LoadFault.parameter message) = Except.error f ∧ _ ↔ _
      simp only [Except.error.injEq, reduceCtorEq, false_or, Except.ok.injEq, exists_eq_left',
        Option.some.injEq, false_and, or_false]
      constructor
      · rintro ⟨rfl, -⟩
        rfl
      · rintro rfl
        exact ⟨rfl, id⟩

section Unreported

variable (hdistinct : HasDistinctKeys given) (hgiven : HasTextKeys given)
  (hnone : HasNoParameters given)
include hdistinct hgiven hnone

/-- What keeps entries from being given is in the file, and so is what the class refuses late. -/
lemma givenFault?_passed (h : Reads s path file) (hfollowed : Parameter.instruction? file = none) :
    (¬ HasTextKeys file ∧ givenFault? (passed path file given) = some .keyType) ∨
    (HasTextKeys file ∧ ∃ message, Parameter.refusal? file = some message ∧
      givenFault? (passed path file given) = some (.parameter message)) ∨
    (HasTextKeys file ∧ Parameter.refusal? file = none ∧
      givenFault? (passed path file given) = none ∧
      Parameter.lateRefusal? (passed path file given) = Parameter.lateRefusal? file) := by
  have hkeys := hasTextKeys_passed_iff h hgiven
  have hnames : ∀ name, Parameter.IsName name → lookup (passed path file given) name =
      lookup file name := fun name => lookup_passed_parameter h hdistinct hnone
  have hinstruction := (Parameter.instruction?_eq_none_congr hnames).mpr hfollowed
  unfold givenFault?
  by_cases htext : HasTextKeys file
  · rw [if_neg (mt any_noText_iff.mp (not_not.mpr (hkeys.mpr htext))), hinstruction,
      Parameter.refusal?_congr hnames, Parameter.lateRefusal?_congr hnames]
    rcases hrefused : Parameter.refusal? file with _ | message
    · exact Or.inr (Or.inr ⟨htext, rfl, rfl, rfl⟩)
    · exact Or.inr (Or.inl ⟨htext, message, rfl, rfl⟩)
  · rw [if_pos (any_noText_iff.mpr (mt hkeys.mp htext))]
    exact Or.inl ⟨htext, rfl⟩

/-- Once what is named is read. -/
lemma unreported_iff_of_reads (h : Reads s path file)
    (hfollowed : Parameter.instruction? file = none) :
    (load s path given).value = .error f ∧ ¬ f.IsReported ↔
      ¬ HasTextKeys file ∧ f = .keyType ∨
      HasTextKeys file ∧ (∃ message, Parameter.refusal? file = some message ∧
        f = .parameter message) ∨
      HasTextKeys file ∧ Parameter.refusal? file = none ∧ (VariablesFail s f ∨
        ∃ ves, variableEntries s = .ok ves ∧
          ((∃ message, Parameter.lateRefusal? file = some message ∧ f = .parameter message) ∨
            Parameter.lateRefusal? file = none ∧
              LooksForFile (deepEntries (renameGiven (passed path file given)) ves) ∧
              ∃ p kind message, ConfigFile.find? s.tree s.cwd = some p ∧
                FileFails s.tree s.cwd p (.noValue kind message) ∧ kind ≠ .value ∧
                f = .file (.noValue kind message))) := by
  have hrefused : ∀ {e : LoadFault}, ¬ e.IsReported → (e = f ∧ ¬ f.IsReported ↔ f = e) := by
    intro e he
    constructor
    · rintro ⟨rfl, -⟩
      rfl
    · rintro rfl
      exact ⟨rfl, he⟩
  rw [value_load h]
  rcases givenFault?_passed hdistinct hgiven hnone h hfollowed with
    ⟨htext, hfault⟩ | ⟨htext, message, hnow, hfault⟩ | ⟨htext, hnow, hfault, hlate⟩
  · rw [value_build_of_fault hfault, Except.error.injEq, hrefused id]
    simp [htext]
  · rw [value_build_of_fault hfault, Except.error.injEq, hrefused id]
    simp [htext, hnow]
  · rw [build_unreported_iff hfault, hlate]
    simp only [withFoundFile_unreported_iff, htext, hnow, not_true, false_and, true_and, false_or,
      reduceCtorEq, exists_const]

/-- **Settings fail unreported** for a named file that fails, has a key that is no text, or has a
parameter that is refused, for variables that fail, and for a file that is found and fails with more
than a bad value. -/
theorem unreported_iff_unloadable (hfollowed : FollowsNothing s path) :
    (load s path given).value = .error f ∧ ¬ f.IsReported ↔ Unloadable s path given f := by
  have hiff : ∀ {file}, Reads s path file → _ := fun {file} h =>
    unreported_iff_of_reads (f := f) hdistinct hgiven hnone h (hfollowed file h)
  have hread : ∀ {file}, Reads s path file →
      ((load s path given).value = .error f ∧ ¬ f.IsReported → Unloadable s path given f) := by
    intro file h hfails
    rcases (hiff h).mp hfails with ⟨hkey, rfl⟩ | ⟨htext, message, hrefused, rfl⟩ |
      ⟨htext, hrefused, hvars | ⟨ves, hves, ⟨message, hlate, rfl⟩ | ⟨hlate, hfound⟩⟩⟩
    · exact .key h hkey
    · exact .parameter h htext hrefused
    · exact .vars h htext hrefused hvars
    · exact .late h htext hrefused hves hlate
    · obtain ⟨hlooks, p, kind, message, hfind, he, hkind, rfl⟩ := hfound
      exact .found h htext hrefused hves hlate hlooks hfind he hkind
  constructor
  · rcases path with _ | p
    · exact hread .unnamed
    · rintro ⟨hfails, hnot⟩
      rcases hexists : s.tree.existsAt s.cwd p with _ | _
      · rw [value_load_of_missing hexists, Except.error.injEq] at hfails
        exact absurd (hfails ▸ trivial) hnot
      · rcases hload : (ConfigFile.load s.tree s.cwd p).value with e | file
        · have he := value_load_eq_error_iff.mp hload
          rw [value_load_of_fails hexists he, Except.error.injEq] at hfails
          exact hfails ▸ .named rfl hexists he
        · exact hread (.named hexists hload) ⟨hfails, hnot⟩
  · intro h
    cases h with
    | named hpath hexists he =>
      rw [hpath]
      exact ⟨value_load_of_fails hexists he, id⟩
    | key h hkey => exact (hiff h).mpr (Or.inl ⟨hkey, rfl⟩)
    | parameter h htext hrefused =>
      exact (hiff h).mpr (Or.inr (Or.inl ⟨htext, _, hrefused, rfl⟩))
    | vars h htext hrefused hvars =>
      exact (hiff h).mpr (Or.inr (Or.inr ⟨htext, hrefused, Or.inl hvars⟩))
    | late h htext hrefused hves hlate =>
      exact (hiff h).mpr (Or.inr (Or.inr ⟨htext, hrefused,
        Or.inr ⟨_, hves, Or.inl ⟨_, hlate, rfl⟩⟩⟩))
    | found h htext hrefused hves hlate hlooks hfind he hkind =>
      exact (hiff h).mpr (Or.inr (Or.inr ⟨htext, hrefused,
        Or.inr ⟨_, hves, Or.inr ⟨hlate, hlooks, _, _, _, hfind, he, hkind, rfl⟩⟩⟩))

end Unreported

end Sieve.Settings
