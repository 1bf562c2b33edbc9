import Sieve.Proofs.Schema.Read
import Sieve.Settings.Options

/-!
The options one by one.

All options are read alike: each from the first of its names that the environment has, and none of
them from the names of another one.
-/

namespace Sieve.Options

open Value Schema

/-- An option by its place in the record. -/
inductive Field where
  | title
  | tags
  | burn
  | untagged
  | omitFiltered
  | filterSpecs
  | folder
deriving DecidableEq, Repr

namespace Field

/-- What the option holds. -/
abbrev Content : Field → Type
  | title | tags => Option String
  | burn => Option Int
  | untagged | omitFiltered | filterSpecs => Bool
  | folder => Option Files.Path

/-- The spellings of the option, those that come first count. -/
def names : Field → List String
  | title => ["grep"]
  | tags => tagsNames
  | burn => burnNames
  | untagged => untaggedNames
  | omitFiltered => omitNames
  | filterSpecs => filterNames
  | folder => folderNames

/-- The option read from a value. -/
def read : (o : Field) → Value → Read o.Content
  | title | tags => expression
  | burn => readBurn
  | untagged | omitFiltered | filterSpecs => Read.boolean
  | folder => Read.optional Read.path

/-- What an option holds that is not set. -/
def unset : (o : Field) → o.Content
  | title | tags | burn | folder => Option.none
  | untagged | omitFiltered | filterSpecs => false

def get : (o : Field) → Options → o.Content
  | title => Options.title
  | tags => Options.tags
  | burn => Options.burn
  | untagged => Options.untagged
  | omitFiltered => Options.omitFiltered
  | filterSpecs => Options.filterSpecs
  | folder => Options.folder

/-- The option read from the entries of an environment. -/
def readIn (o : Field) (es : List (Value × Value)) : Read o.Content :=
  Read.firstField es o.names o.read o.unset

end Field

variable {es : List (Value × Value)} {opts : Options}

/-- Options are read if each of them is. -/
theorem ofEntries_eq_ok_iff :
    ofEntries es = .ok opts ↔ ∀ o : Field, o.readIn es = .ok (o.get opts) := by
  unfold ofEntries
  simp only [map_eq_ok_iff, both_eq_ok_iff, Prod.exists]
  constructor
  · rintro ⟨title, tags, burn, untagged, omitFiltered, filterSpecs, folder,
      ⟨⟨htitle, htags, hburn⟩, huntagged, homit, hfilter, hfolder⟩, rfl⟩ (_ | _ | _ | _ | _ | _ | _)
    · exact htitle
    · exact htags
    · exact hburn
    · exact huntagged
    · exact homit
    · exact hfilter
    · exact hfolder
  · intro h
    exact ⟨opts.title, opts.tags, opts.burn, opts.untagged, opts.omitFiltered, opts.filterSpecs,
      opts.folder, ⟨⟨h .title, h .tags, h .burn⟩, h .untagged, h .omitFiltered, h .filterSpecs,
        h .folder⟩, rfl⟩

lemma exists_ofEntries (h : ∀ o : Field, ∃ x, o.readIn es = .ok x) :
    ∃ opts, ofEntries es = .ok opts := by
  choose x hx using h
  refine ⟨⟨x .title, x .tags, x .burn, x .untagged, x .omitFiltered, x .filterSpecs, x .folder⟩,
    ofEntries_eq_ok_iff.mpr ?_⟩
  rintro (_ | _ | _ | _ | _ | _ | _) <;> exact hx _

end Sieve.Options
