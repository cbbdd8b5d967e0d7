/-
  PlanScaffold/Proofs/Toml/DistinctKeys.lean
  ==========================================
  **No table of a document has a key twice.**

  Whatever a reader is made of, a property of all it gives can be told from its parts (`Yields`).
  Values are read by two readers that use each other, arrays and inline tables, so the proof for
  them is an induction on the depth to which they nest (`yields_value`).  From values it goes on to
  expressions, and from these to the document (`document?_wellKeyed`).
-/
import PlanScaffold.Proofs.Toml.WellKeyed

namespace PlanScaffold.Toml

/-! ### What readers give -/

namespace Reader

variable {α β : Type} {P : α → Prop} {Q : β → Prop}

/-- Whatever text the reader is run on, what it gives has the property. -/
def Yields (P : α → Prop) (reader : Reader α) : Prop :=
  ∀ text value rest, reader.run text = some (value, rest) → P value

theorem yields_true (reader : Reader α) : Yields (fun _ => True) reader :=
  fun _ _ _ _ => trivial

theorem yields_pure {value : α} (hvalue : P value) : Yields P (pure value) := by
  intro text found rest hrun
  cases hrun
  exact hvalue

theorem yields_bind {first : Reader α} {next : α → Reader β} (hfirst : Yields P first)
    (hnext : ∀ value, P value → Yields Q (next value)) : Yields Q (first >>= next) := by
  intro text value rest hrun
  rw [StateT.run_bind] at hrun
  obtain ⟨⟨found, between⟩, hfound, hrun⟩ := Option.bind_eq_some_iff.mp hrun
  exact hnext found (hfirst text found between hfound) between value rest hrun

/-- As `yields_bind`, where nothing needs to be known of what comes first. -/
theorem yields_after {first : Reader α} {next : α → Reader β}
    (hnext : ∀ value, Yields Q (next value)) : Yields Q (first >>= next) :=
  yields_bind (yields_true first) fun value _ => hnext value

theorem yields_seqLeft {first : Reader α} {second : Reader β} (hfirst : Yields P first) :
    Yields P (first <* second) := by
  rw [seqLeft_eq_bind]
  exact yields_bind hfirst fun value hvalue => yields_after fun _ => yields_pure hvalue

theorem yields_orElse {first second : Reader α} (hfirst : Yields P first)
    (hsecond : Yields P second) : Yields P (first <|> second) := by
  intro text value rest hrun
  have hrun : (first.run text).orElse (fun _ => second.run text) = some (value, rest) := hrun
  cases hran : first.run text with
  | none =>
    rw [hran] at hrun
    exact hsecond text value rest hrun
  | some found =>
    rw [hran] at hrun
    cases hrun
    exact hfirst text value rest hran

theorem yields_map {reader : Reader α} {f : α → β} (hreader : Yields P reader)
    (hf : ∀ value, P value → Q (f value)) : Yields Q (f <$> reader) :=
  yields_bind hreader fun value hvalue => yields_pure (hf value hvalue)

theorem forall_mem_upTo {reader : Reader α} (hreader : Yields P reader)
    (bound text : List Char) : ∀ value ∈ (upTo reader bound text).1, P value := by
  fun_induction upTo reader bound text with
  | case1 | case2 => simp
  | case3 _ bound text value between hrun values rest hupTo ih =>
    rw [hupTo] at ih
    exact List.forall_mem_cons.mpr ⟨hreader text value between hrun, ih⟩

theorem yields_many {reader : Reader α} (hreader : Yields P reader) :
    Yields (fun values => ∀ value ∈ values, P value) (many reader) := by
  intro text values rest hrun
  have hvalues : (upTo reader text text).1 = values := congrArg Prod.fst (Option.some.inj hrun)
  rw [← hvalues]
  exact forall_mem_upTo hreader text text

theorem yields_sepBy {reader : Reader α} {separator : Reader β} (hreader : Yields P reader) :
    Yields (fun values => ∀ value ∈ values, P value) (sepBy reader separator) := by
  refine yields_orElse ?_ (yields_pure (by simp))
  refine yields_bind hreader fun first hfirst => ?_
  refine yields_bind (yields_many (yields_after fun _ => hreader)) fun rest hrest => ?_
  exact yields_pure (List.forall_mem_cons.mpr ⟨hfirst, hrest⟩)

theorem yields_lift {given : Option α} (hgiven : ∀ value, given = some value → P value) :
    Yields P (liftM given) := by
  intro text value rest hrun
  obtain ⟨found, hfound, hvalue⟩ := Option.bind_eq_some_iff.mp hrun
  cases hvalue
  exact hgiven value hfound

theorem yields_foldlM {step : β → α → Reader β} {values : List α} {start : β} (hstart : Q start)
    (hvalues : ∀ value ∈ values, P value)
    (hstep : ∀ made value, Q made → P value → Yields Q (step made value)) :
    Yields Q (values.foldlM step start) := by
  induction values generalizing start with
  | nil => exact yields_pure hstart
  | cons value rest ih =>
    obtain ⟨hvalue, hrest⟩ := List.forall_mem_cons.mp hvalues
    rw [List.foldlM_cons]
    exact yields_bind (hstep start value hstart hvalue) fun made hmade => ih hmade hrest

end Reader

/-! ### Values and expressions -/

open Reader

theorem yields_array {value : Reader Value} (hvalue : Yields Value.WellKeyed value) :
    Yields Value.WellKeyed (array value) := by
  have hitem : Yields Value.WellKeyed (gaps *> value <* gaps) :=
    yields_seqLeft (yields_after fun _ => hvalue)
  refine yields_after fun _ => yields_bind (yields_sepBy hitem) fun items hitems => ?_
  have hend : Yields Value.WellKeyed (do gaps; char ']'; pure (.array items)) :=
    yields_after fun _ => yields_after fun _ => yields_pure (.array hitems)
  dsimp only
  split
  · exact yields_after fun _ => hend
  · exact hend

theorem yields_pair {value : Reader Value} (hvalue : Yields Value.WellKeyed value) :
    Yields (fun read => read.2.WellKeyed) (pair value) := by
  refine yields_after fun path => yields_after fun _ => yields_after fun _ => ?_
  refine yields_bind hvalue fun read hread => yields_after fun _ => ?_
  exact yields_pure hread

theorem yields_inlineTable {value : Reader Value} (hvalue : Yields Value.WellKeyed value) :
    Yields Value.WellKeyed (inlineTable value) := by
  refine yields_after fun _ => ?_
  refine yields_bind (yields_sepBy (yields_pair hvalue)) fun pairs hpairs => ?_
  refine yields_after fun _ => yields_after fun _ => ?_
  refine yields_bind (yields_foldlM Entries.wellKeyed_nil hpairs ?_) fun entries hentries => ?_
  · rintro entries ⟨⟨path, last⟩, read⟩ hentries hread
    exact yields_lift fun made hmade => hentries.define hread hmade
  · exact yields_pure (Value.wellKeyed_table_iff.mpr hentries)

theorem yields_value (depth : Nat) : Yields Value.WellKeyed (value depth) := by
  have hscalar : Yields Value.WellKeyed (.scalar <$> scalar) :=
    yields_map (yields_true scalar) fun found _ => .scalar found
  induction depth with
  | zero => exact hscalar
  | succ depth ih =>
    exact yields_orElse (yields_array ih) (yields_orElse (yields_inlineTable ih) hscalar)

theorem yields_assignment : Yields Expression.WellKeyed assignment := by
  refine yields_bind (yields_pair (yields_value depthLimit)) fun read hread => ?_
  exact yields_pure hread

theorem yields_header : Yields Expression.WellKeyed (arrayHeader <|> header) := by
  refine yields_orElse ?_ ?_
  · exact yields_after fun _ => yields_after fun _ => yields_after fun _ => yields_pure trivial
  · exact yields_after fun _ => yields_after fun _ => yields_after fun _ => yields_pure trivial

theorem yields_expression : Yields Expression.WellKeyed expression := by
  have hread : ∀ {reader : Reader Expression}, Yields Expression.WellKeyed reader →
      Yields Expression.WellKeyed (do let read ← reader; spaces; pure read) := fun hreader =>
    yields_bind hreader fun read hread => yields_after fun _ => yields_pure hread
  have hnothing : ∀ reader : Reader Unit,
      Yields Expression.WellKeyed (reader *> pure .nothing) := fun reader =>
    yields_after fun _ => yields_pure trivial
  refine yields_after fun next => ?_
  dsimp only
  split
  · exact hread (yields_seqLeft yields_header)
  · exact hread (hnothing _)
  · exact hread (hnothing _)
  · exact hread (hnothing _)
  · exact hread (yields_seqLeft yields_assignment)

/-- **No table of a document has a key twice.** -/
theorem document?_wellKeyed {text : String} {entries : Entries}
    (hdocument : document? text = some entries) : entries.WellKeyed := by
  obtain ⟨read, hread, hdocument⟩ := Option.bind_eq_some_iff.mp hdocument
  obtain ⟨draft, hdraft, hclose⟩ := Option.bind_eq_some_iff.mp hdocument
  have hexpressions : Yields (fun read => ∀ expression ∈ read, expression.WellKeyed) expressions :=
    yields_after fun _ => yields_after fun _ => yields_many yields_expression
  have hall : ∀ expression ∈ read, expression.WellKeyed := by
    unfold readAll? at hread
    split at hread
    · next found hrun =>
      cases hread
      exact hexpressions _ _ _ hrun
    · cases hread
  exact (Draft.wellKeyed_empty.foldlM hall hdraft).close hclose

end PlanScaffold.Toml
