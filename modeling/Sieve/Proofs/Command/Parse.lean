import Sieve.Filter.Request
import Sieve.Proofs.Command.Select
import Sieve.Proofs.Json.ReadBack
import Sieve.Proofs.Schema.Read

/-!
What `parse` prints.

The command prints the parts of a filter as a document. Read back, the document holds the parts as
they were, and the kind of the filter beside them, which a filter that is read passes over.
-/

namespace Sieve

open Schema Value

/-! ### The document of a filter -/

lemma ofItems_map {α : Type} {f : α → Json} {g : α → Value} (h : ∀ a, ofJson (f a) = g a)
    (l : List α) : ofItems (l.map f) = l.map g := by
  induction l with
  | nil => rfl
  | cons a l ih => rw [List.map_cons, ofItems, h, ih, List.map_cons]

lemma ofJson_ofStrings (l : List String) : ofJson (Json.ofStrings l) = .list (l.map .str) := by
  rw [Json.ofStrings, ofJson, ofItems_map fun s => by rw [ofJson]]

lemma Schema.texts_ofStrings (l : List String) :
    Read.texts (ofJson (Json.ofStrings l)) = .ok l := by
  rw [ofJson_ofStrings]
  exact items_map (f := Read.text) (g := .str) (fun _ => rfl) l 0

lemma Schema.groups_ofStrings (l : List (List String)) :
    Read.groups (ofJson (.arr (l.map Json.ofStrings))) = .ok l := by
  rw [ofJson, ofItems_map fun _ => rfl]
  exact items_map texts_ofStrings l 0

lemma Json.isTextual_ofStrings (l : List String) : (Json.ofStrings l).IsTextual :=
  .arr fun x hx => by
    obtain ⟨s, -, rfl⟩ := List.mem_map.mp hx
    exact .str s

namespace Filter

variable (f : Filter)

lemma isTextual_json : f.json.IsTextual := by
  have hgroups : (Json.arr (f.tags.groups.map Json.ofStrings)).IsTextual :=
    .arr fun x hx => by
      obtain ⟨l, -, rfl⟩ := List.mem_map.mp hx
      exact Json.isTextual_ofStrings l
  refine .obj (by simp) ?_
  simp only [List.forall_mem_cons, List.not_mem_nil, false_imp_iff, implies_true, and_true]
  refine ⟨.str _, .obj (by simp) ?_, .obj (by simp) ?_⟩
  · simp [Json.isTextual_ofStrings]
  · simp [Json.isTextual_ofStrings, hgroups]

/-- **A filter is read back** from its parts. -/
theorem read_json : Filter.read (ofJson f.json) = .ok f := by
  obtain ⟨⟨words, negated⟩, ⟨groups, inverted⟩⟩ := f
  have htitle : TitleFilter.read (ofJson (.obj [("words", Json.ofStrings words),
      ("negated_words", Json.ofStrings negated)])) = .ok ⟨words, negated⟩ := by
    rw [ofJson, TitleFilter.read, field_eq_ok rfl (texts_ofStrings words),
      field_eq_ok rfl (texts_ofStrings negated)]
    rfl
  have htags : TagFilter.read (ofJson (.obj [("tags", .arr (groups.map Json.ofStrings)),
      ("inverted_tags", Json.ofStrings inverted)])) = .ok ⟨groups, inverted⟩ := by
    rw [ofJson, TagFilter.read, field_eq_ok rfl (groups_ofStrings groups),
      field_eq_ok rfl (texts_ofStrings inverted)]
    rfl
  rw [json, ofJson, Filter.read, field_eq_ok rfl htitle, field_eq_ok rfl htags]
  rfl

end Filter

namespace Command

/-! ### Command lines that ask for it -/

lemma Arguments.read_nil {opts : List Opt} {mixed : Bool} :
    Arguments.read opts mixed [] = .ok ⟨[], []⟩ := rfl

lemma Arguments.read_cons (opts : List Opt) (mixed : Bool) (arg : String) (rest : List String) :
    Arguments.read opts mixed (arg :: rest) = do
      match ← Argument.read opts arg with
      | .mark => return ⟨[], rest⟩
      | .operand =>
        if mixed then return (← Arguments.read opts mixed rest).withOperand arg
        else return ⟨[], arg :: rest⟩
      | .options g => return (← Arguments.read opts mixed rest).withGiven g
      | .waiting g name key =>
        match rest with
        | [] => throw (.needsValue name)
        | v :: rest =>
          return (← Arguments.read opts mixed rest).withGiven (g ++ [⟨key, some v⟩]) := by
  delta Arguments.read
  cases rest <;> exact bind_congr fun a => by cases a <;> rfl

/-- An option with its value in the next argument. -/
lemma Arguments.read_value {opts : List Opt} {mixed : Bool} {name v : String} {rest : List String}
    {a : Arguments} (hname : Argument.read opts name = .ok (.waiting [] name name))
    (hrest : Arguments.read opts mixed rest = .ok a) :
    Arguments.read opts mixed (name :: v :: rest) = .ok (a.withGiven [⟨name, some v⟩]) := by
  rw [Arguments.read_cons, hname]
  simp only [hrest]
  rfl

/-- The options of `parse` for expressions, as they are typed. -/
def expressionWords (title tags : Option String) : List String :=
  (title.map fun g => ["--grep", g]).getD [] ++ (tags.map fun t => ["--tags", t]).getD []

lemma Arguments.read_expressionWords (title tags : Option String) :
    Arguments.read (Reader.command .parse).options true (expressionWords title tags) =
      .ok ⟨(title.map (⟨"--grep", some ·⟩)).toList ++
        (tags.map (⟨"--tags", some ·⟩)).toList, []⟩ := by
  have htags : Arguments.read (Reader.command .parse).options true (expressionWords none tags) =
      .ok ⟨(tags.map (⟨"--tags", some ·⟩)).toList, []⟩ := by
    cases tags with
    | none => rfl
    | some t => exact Arguments.read_value (by decide +kernel) Arguments.read_nil
  cases title with
  | none => exact htags
  | some g => exact Arguments.read_value (by decide +kernel) htags

/-- Any two texts can be asked for. -/
lemma read_parse_words (w : Site) (title tags : Option String) :
    Invocation.read w ("parse" :: expressionWords title tags) =
      .ok (.run ⟨none, false⟩ (.parse title tags)) := by
  have hprogram : Arguments.read Reader.program.options false
      ("parse" :: expressionWords title tags) =
        .ok ⟨[], "parse" :: expressionWords title tags⟩ := by
    rw [Arguments.read_cons]
    rfl
  rw [Invocation.read, Site.read]
  change (do let a ← (Arguments.read Reader.program.options false _).mapError _; _) = _
  rw [hprogram]
  change w.read (.command .parse) (expressionWords title tags) _ = _
  rw [Site.read]
  change (do let a ← (Arguments.read (Reader.command .parse).options true _).mapError _; _) = _
  rw [Arguments.read_expressionWords]
  cases title <;> cases tags <;> rfl

/-- A command line asks for two expressions to be parsed. -/
def AsksToParse (m : Machine) (args : List String) (title tags : Option String) : Prop :=
  ∃ manner, Invocation.read ⟨m.surroundings.tree, m.surroundings.cwd⟩ args =
    .ok (.run manner (.parse title tags))

lemma shown_parse {m : Machine} {args : List String} {title tags : Option String}
    (h : AsksToParse m args title tags) :
    (run m args).shown = (.ok 0, [(Filter.ofExpressions title tags).json.indented]) := by
  obtain ⟨manner, hread⟩ := h
  unfold run
  rw [hread]
  exact Session.shown_ofSession

/-- **A printed filter is read back.** Every two texts can be asked for, and either may be missing.
Whatever the command line that asks for them, what is printed is a document. It holds the filter
that the texts spell, and the kind of that filter. -/
theorem printed_filter_is_read_back (m : Machine) (title tags : Option String) :
    AsksToParse m ("parse" :: expressionWords title tags) title tags ∧
    ∃ text j, (∀ args, AsksToParse m args title tags → (run m args).shown = (.ok 0, [text])) ∧
      Json.read? text = some j ∧
      Filter.read (ofJson j) = .ok (Filter.ofExpressions title tags) ∧
      j.get? "kind" = some (.str (Filter.ofExpressions title tags).kind.text) := by
  refine ⟨⟨_, read_parse_words _ title tags⟩, _, _, fun args h => shown_parse h, ?_,
    Filter.read_json _, rfl⟩
  exact (Filter.isTextual_json _).read?_write

end Command

end Sieve
