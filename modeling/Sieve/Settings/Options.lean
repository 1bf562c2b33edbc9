import Sieve.Schema.Scalar

/-!
The options of a run, read from the free-form environment of a test runner. Each has several
names; the first of them that the environment holds counts, even if its value is empty.
-/

namespace Sieve

open Schema

structure Options where
  title : Option String
  tags : Option String
  /-- How often each test runs. -/
  burn : Option Int
  untagged : Bool
  omitFiltered : Bool
  /-- Files without matching tests are left out before the run. -/
  filterSpecs : Bool
  /-- The folder that patterns of spec files start in. -/
  folder : Option Files.Path
deriving DecidableEq, Repr

namespace Options

/-- No option is set. -/
def none : Options := ⟨.none, .none, .none, false, false, false, .none⟩

/-- An empty value is no expression; any other value is one by its text. -/
def readExpression (v : Value) : Option (Option String) :=
  if !v.isTruthy then some .none else v.text?.map some

/-- An empty value is no count. -/
def readBurn (v : Value) : Read (Option Int) :=
  if v.isTruthy then Read.optional (Read.integerFrom 1) v else .ok .none

def tagsNames : List String := ["grep_tags", "grepTags", "grep-tags"]

def burnNames : List String := ["grep_burn", "grepBurn", "grep-burn", "burn"]

def untaggedNames : List String := ["grep_untagged", "grepUntagged", "grep-untagged"]

def omitNames : List String := ["grep_omit_filtered", "grepOmitFiltered", "grep-omit-filtered"]

def filterNames : List String := ["grep_filter_specs", "grepFilterSpecs"]

def folderNames : List String := ["grep_integration_folder", "grepIntegrationFolder"]

/-- An expression that has no text is a broken rule of its field. -/
def expression (v : Value) : Read (Option String) :=
  match readExpression v with
  | some e => .ok e
  | .none => .fail (.rule Value.noTextMessage)

/-- The options that the entries of an environment set. -/
def ofEntries (es : List (Value × Value)) : Read Options :=
  let title := Read.firstField es ["grep"] expression .none
  let tags := Read.firstField es tagsNames expression .none
  let burn := Read.firstField es burnNames readBurn .none
  let untagged := Read.firstField es untaggedNames Read.boolean false
  let omitFiltered := Read.firstField es omitNames Read.boolean false
  let filterSpecs := Read.firstField es filterNames Read.boolean false
  let folder := Read.firstField es folderNames (Read.optional Read.path) .none
  let texts := Read.both title (Read.both tags burn)
  let flags := Read.both untagged (Read.both omitFiltered (Read.both filterSpecs folder))
  (Read.both texts flags).map fun ((title, tags, burn), untagged, omitFiltered, filterSpecs, folder) =>
    ⟨title, tags, burn, untagged, omitFiltered, filterSpecs, folder⟩

/-- The options given by any value. -/
def read : Value → Read Options
  | .map es => ofEntries es
  | _ => .fail (.record "GrepOptions")

/-- The folder of the options, or the working directory. -/
def folderIn (o : Options) (cwd : Files.Path) : Files.Path := o.folder.getD cwd

end Options

end Sieve
