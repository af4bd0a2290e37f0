import RdfExport.Proofs.Strategies

/-!
# RdfExport.Proofs.Conversion

What a row says as a statement depends on the columns `s`, `p`, `o` and `g` alone, and what is
written of a row depends on that statement alone.

* `Bindings.Binds`, `Bindings.Unbound`: what a row says of a name; its first binding counts.
* `Bindings.States`: the statement that a row describes.
* `Alike`: two rows that convert and are written in the same way.
* `Output.Accepts`: an output that keeps all octets, taken in any pieces.
* `conversion_exact`: which rows convert, to what, and what is written of them.
-/

namespace RdfExport

open Rdf

/-! ## What a row says of a name -/

namespace Rdf.Bindings

/-- That the first binding of a name is to a term. -/
def Binds (b : Bindings) (name : String) (t : Term) : Prop :=
  ∃ before v after, b.values = before ++ (v, t) :: after ∧ v.name = name ∧
    ∀ p ∈ before, p.1.name ≠ name

/-- That no binding is of a name. -/
def Unbound (b : Bindings) (name : String) : Prop := ∀ p ∈ b.values, p.1.name ≠ name

/-- That a row describes a statement: `s`, `p` and `o` are bound to its terms, and `g` to its
graph; a row that leaves `g` unbound describes a statement in the default graph. -/
structure States (b : Bindings) (q : Quad) : Prop where
  subject : b.Binds "s" (.node q.subject)
  predicate : b.Binds "p" (.node (.iri q.predicate))
  object : b.Binds "o" q.object
  default : q.graph = none → b.Unbound "g"
  graph : ∀ g, q.graph = some g → b.Binds "g" (.node g)

def statementNames : List String := ["s", "p", "o", "g"]

variable {b : Bindings} {name : String}

theorem get?_eq_some_iff {t : Term} : b.get? name = some t ↔ b.Binds name t := by
  simp only [get?, Option.map_eq_some_iff, List.find?_eq_some_iff_append]
  constructor
  · rintro ⟨⟨v, _⟩, ⟨hname, before, after, hvalues, hbefore⟩, rfl⟩
    exact ⟨before, v, after, hvalues, by simpa using hname, fun p hp => by
      simpa using hbefore p hp⟩
  · rintro ⟨before, v, after, hvalues, hname, hbefore⟩
    exact ⟨(v, t), ⟨by simpa using hname, before, after, hvalues, fun p hp => by
      simpa using hbefore p hp⟩, rfl⟩

theorem get?_eq_none_iff : b.get? name = none ↔ b.Unbound name := by
  simp [get?, Unbound]

theorem get?_eq_head? (b : Bindings) (name : String) :
    b.get? name = ((b.values.filter fun p => p.1.name == name).head?).map (·.2) := by
  rw [List.head?_filter]
  rfl

theorem toQuad?_congr {b' : Bindings} (h : ∀ name ∈ statementNames, b'.get? name = b.get? name) :
    b'.toQuad? = b.toQuad? := by
  simp only [toQuad?, graph?, h "s" (by decide), h "p" (by decide), h "o" (by decide),
    h "g" (by decide)]

theorem get?_of_repeat {before after : List (Variable × Term)} {v : Variable} {t : Term}
    (h : ∃ p ∈ before, p.1.name = v.name) :
    get? ⟨before ++ after⟩ name = get? ⟨before ++ (v, t) :: after⟩ name := by
  by_cases hname : v.name = name
  · obtain ⟨p, hp, heq⟩ := h
    have hfound : (before.find? fun p => p.1.name == name).isSome = true := by
      rw [List.find?_isSome]
      exact ⟨p, hp, by simp [heq, hname]⟩
    obtain ⟨first, hfirst⟩ := Option.isSome_iff_exists.1 hfound
    simp only [get?, List.find?_append, hfirst, Option.some_or]
  · simp [get?, List.find?_append, hname]

/-! ### Distinct names -/

theorem length_filter_le (h : (b.values.map (·.1.name)).Nodup) :
    (b.values.filter fun p => p.1.name == name).length ≤ 1 := by
  have hdistinct : (b.values.filter fun p => p.1.name == name).Pairwise
      fun p p' => p.1.name ≠ p'.1.name := (List.pairwise_map.1 h).filter _
  have hname : ∀ p ∈ b.values.filter (fun p => p.1.name == name), p.1.name = name :=
    fun p hp => by simpa using (List.mem_filter.1 hp).2
  -- two bindings of the name would have distinct names
  generalize b.values.filter (fun p => p.1.name == name) = l at hdistinct hname
  match l with
  | [] | [_] => simp
  | p :: p' :: rest =>
    have hne := List.rel_of_pairwise_cons hdistinct (by simp : p' ∈ p' :: rest)
    exact absurd ((hname p (by simp)).trans (hname p' (by simp)).symm) hne

theorem perm_eq_of_length_le_one {α : Type} {l l' : List α} (h : l'.Perm l) (hl : l.length ≤ 1) :
    l' = l := by
  match l with
  | [] => exact h.eq_nil
  | [_] => exact List.perm_singleton.1 h

/-- Neither the order of the bindings nor what other names are bound to matters to a name. -/
theorem get?_of_perm {b' : Bindings} {others : List (Variable × Term)}
    (hdistinct : (b.values.map (·.1.name)).Nodup)
    (hothers : ∀ p ∈ others, p.1.name ≠ name) (h : b'.values.Perm (b.values ++ others)) :
    b'.get? name = b.get? name := by
  have hperm := h.filter fun p => p.1.name == name
  have hnone : others.filter (fun p => p.1.name == name) = [] :=
    List.filter_eq_nil_iff.2 fun p hp => by simpa using hothers p hp
  rw [List.filter_append, hnone, List.append_nil] at hperm
  rw [get?_eq_head?, get?_eq_head?, perm_eq_of_length_le_one hperm (length_filter_le hdistinct)]

/-! ### Statements -/

theorem graph?_eq_some_iff {g : Option Node} : b.graph? = some g ↔
    (g = none → b.Unbound "g") ∧ ∀ n, g = some n → b.Binds "g" (.node n) := by
  simp only [← get?_eq_none_iff, ← get?_eq_some_iff, graph?]
  cases b.get? "g" with
  | none => cases g <;> simp
  | some t => cases t <;> cases g <;> simp [eq_comm]

/-- A row converts to the statement that it describes, and to no other. -/
theorem toQuad?_eq_some_iff {q : Quad} : b.toQuad? = some q ↔ b.States q := by
  have hparts : b.States q ↔ b.get? "s" = some (.node q.subject) ∧
      b.get? "p" = some (.node (.iri q.predicate)) ∧ b.get? "o" = some q.object ∧
      b.graph? = some q.graph := by
    simp only [get?_eq_some_iff, graph?_eq_some_iff]
    exact ⟨fun h => ⟨h.subject, h.predicate, h.object, h.default, h.graph⟩,
      fun ⟨hs, hp, ho, hnone, hsome⟩ => ⟨hs, hp, ho, hnone, hsome⟩⟩
  rw [hparts, toQuad?]
  constructor
  · intro h
    split at h
    case h_1 hs hp ho hg =>
      cases h
      exact ⟨hs, hp, ho, hg⟩
    case h_2 => cases h
  · rintro ⟨hs, hp, ho, hg⟩
    simp only [hs, hp, ho, hg]

theorem toQuad?_isSome_iff : b.toQuad?.isSome = true ↔
    (∃ n, b.Binds "s" (.node n)) ∧ (∃ i, b.Binds "p" (.node (.iri i))) ∧ (∃ t, b.Binds "o" t) ∧
      (b.Unbound "g" ∨ ∃ n, b.Binds "g" (.node n)) := by
  rw [Option.isSome_iff_exists]
  simp only [toQuad?_eq_some_iff]
  constructor
  · rintro ⟨q, h⟩
    refine ⟨⟨_, h.subject⟩, ⟨_, h.predicate⟩, ⟨_, h.object⟩, ?_⟩
    cases hgraph : q.graph with
    | none => exact .inl (h.default hgraph)
    | some g => exact .inr ⟨g, h.graph g hgraph⟩
  · rintro ⟨⟨s, hs⟩, ⟨p, hp⟩, ⟨o, ho⟩, hg | ⟨g, hg⟩⟩
    · refine ⟨⟨s, p, o, none⟩, hs, hp, ho, fun _ => hg, ?_⟩
      intro g hgraph
      cases hgraph
    · refine ⟨⟨s, p, o, some g⟩, hs, hp, ho, ?_, ?_⟩
      · intro hgraph
        cases hgraph
      · intro g' hgraph
        cases hgraph
        exact hg

end Rdf.Bindings

/-! ## What is written of a row -/

def Rdf.Quad.isWellFormed (q : Quad) : Bool :=
  q.triple.isWellFormed && q.graph.all Node.isWellFormed

def quadOctets (q : Quad) : Bytes := statementOctets q.triple ++ graphOctets q.graph ++ closingDot

theorem endsLine_not_mem_quadOctets {q : Quad} (h : q.isWellFormed = true) :
    endsLine ∉ quadOctets q := by
  simp only [Quad.isWellFormed, Bool.and_eq_true] at h
  simp [quadOctets, endsLine_not_mem_statementOctets h.1, endsLine_not_mem_graphOctets h.2,
    endsLine_not_mem_closingDot]

namespace Output

variable {ω : Type}

/-- An output that takes some of the octets that it is offered, whatever they are, and keeps what
it takes. -/
def Accepts (out : Output ω) (held : ω → Bytes) : Prop :=
  ∀ bytes w, bytes ≠ [] → ∃ n w', out.put bytes w = (.ok (n + 1), w') ∧ n < bytes.length ∧
    held w' = held w ++ bytes.take (n + 1)

theorem accepts_memory : memory.Accepts id := by
  intro bytes w hne
  have hpos : 0 < bytes.length := List.length_pos_iff.2 hne
  refine ⟨bytes.length - 1, w ++ bytes, ?_, by omega, ?_⟩
  · simp only [memory]
    rw [Nat.sub_add_cancel hpos]
  · rw [Nat.sub_add_cancel hpos, List.take_length]
    rfl

variable {out : Output ω} {held : ω → Bytes}

theorem Accepts.writeAll (h : out.Accepts held) (bytes : Bytes) (w : ω) :
    ∃ w', out.writeAll bytes w = (.ok (), w') ∧ held w' = held w ++ bytes := by
  induction bytes, w using Output.writeAll.induct out with
  | case1 w => exact ⟨w, by rw [Output.writeAll], by rw [List.append_nil]⟩
  | case2 b rest w w' hput | case4 b rest w e w' hput =>
    obtain ⟨n, w'', hok, -⟩ := h (b :: rest) w (by simp)
    rw [hok] at hput
    cases hput
  | case3 b rest w n w' hput ih =>
    obtain ⟨m, w'', hok, -, hheld⟩ := h (b :: rest) w (by simp)
    rw [hok] at hput
    cases hput
    obtain ⟨w'', hwrite, hall⟩ := ih
    refine ⟨w'', ?_, ?_⟩
    · rw [Output.writeAll, hok]
      exact hwrite
    · rw [hall, hheld, List.take_succ_cons, List.append_assoc, List.cons_append,
        List.take_append_drop]

/-- A row that describes no statement is refused before anything is written. -/
theorem accept_notAStatement {b : Bindings} (h : b.toQuad? = none) (out : Output ω) (w : ω) :
    (nquads out).accept (.row b) w = (.error (.protocol (.notAStatement b)), w) := by
  simp only [nquads, writeRecord, h]

theorem accept_row {b : Bindings} {q : Quad} (h : b.toQuad? = some q) (out : Output ω) (w : ω) :
    (nquads out).accept (.row b) w = out.writeLine q.line w := by
  simp only [nquads, writeRecord, h]

/-- One line is written of a row that describes a statement. -/
theorem Accepts.accept_row (h : out.Accepts held) {b : Bindings} {q : Quad}
    (hq : b.toQuad? = some q) (w : ω) :
    ∃ w', (nquads out).accept (.row b) w = (.ok (), w') ∧
      held w' = held w ++ (quadOctets q ++ [endsLine]) := by
  obtain ⟨w', hwrite, hheld⟩ := h.writeAll (Utf8.encode q.line) w
  refine ⟨w', ?_, by rw [hheld, encode_quadLine, quadOctets]⟩
  rw [Output.accept_row hq, writeLine, hwrite]
  rfl

end Output

/-- Two rows that say the same: they convert alike, and either every output does the same with both
or both are refused before anything is written. -/
structure Alike (b b' : Bindings) : Prop where
  quad : b'.toQuad? = b.toQuad?
  written : b.toQuad?.isSome = true → ∀ {ω : Type} (out : Output ω) (w : ω),
    (Output.nquads out).accept (.row b') w = (Output.nquads out).accept (.row b) w
  refused : b.toQuad? = none → ∀ {ω : Type} (out : Output ω) (w : ω),
    (Output.nquads out).accept (.row b) w = (.error (.protocol (.notAStatement b)), w) ∧
      (Output.nquads out).accept (.row b') w = (.error (.protocol (.notAStatement b')), w)

theorem Alike.of_quad {b b' : Bindings} (h : b'.toQuad? = b.toQuad?) : Alike b b' where
  quad := h
  written hsome ω out w := by
    obtain ⟨q, hq⟩ := Option.isSome_iff_exists.1 hsome
    rw [Output.accept_row hq, Output.accept_row (h.trans hq)]
  refused hnone ω out w :=
    ⟨Output.accept_notAStatement hnone out w, Output.accept_notAStatement (h.trans hnone) out w⟩

/-- **A row is converted by four of its names.** A row converts to the statement that its first
bindings of `s`, `p`, `o` and `g` describe: it needs a node, an IRI, any term, and a node or
nothing there. Later bindings of a name that is bound do not count. Where names are distinct,
neither the order of the bindings nor bindings of other names count, wherever they stand. A row
that does not convert is refused and nothing is written; of one that does, an output that accepts
octets keeps one line, which holds one line end if the terms are well-formed. -/
theorem conversion_exact (b : Bindings) :
    (∀ q, b.toQuad? = some q ↔ b.States q) ∧
      (b.toQuad?.isSome = true ↔
        (∃ n, b.Binds "s" (.node n)) ∧ (∃ i, b.Binds "p" (.node (.iri i))) ∧
          (∃ t, b.Binds "o" t) ∧ (b.Unbound "g" ∨ ∃ n, b.Binds "g" (.node n))) ∧
      (∀ before v t after, b.values = before ++ (v, t) :: after →
        (∃ p ∈ before, p.1.name = v.name) → Alike b ⟨before ++ after⟩) ∧
      ((b.values.map (·.1.name)).Nodup → ∀ (b' : Bindings) (others : List (Variable × Term)),
        (∀ p ∈ others, p.1.name ∉ Bindings.statementNames) →
        b'.values.Perm (b.values ++ others) → Alike b b') ∧
      (b.toQuad? = none → ∀ {ω : Type} (out : Output ω) (w : ω),
        (Output.nquads out).accept (.row b) w = (.error (.protocol (.notAStatement b)), w)) ∧
      ∀ q, b.toQuad? = some q →
        (∀ {ω : Type} {out : Output ω} {held : ω → Bytes}, out.Accepts held → ∀ w, ∃ w',
          (Output.nquads out).accept (.row b) w = (.ok (), w') ∧
            held w' = held w ++ (quadOctets q ++ [endsLine])) ∧
          (q.isWellFormed = true → endsLine ∉ quadOctets q) := by
  refine ⟨fun q => Bindings.toQuad?_eq_some_iff, Bindings.toQuad?_isSome_iff, ?_, ?_, ?_, ?_⟩
  · rintro before v t after hvalues hrepeat
    refine .of_quad (Bindings.toQuad?_congr fun name _ => ?_)
    obtain rfl : b = ⟨before ++ (v, t) :: after⟩ := congrArg Bindings.mk hvalues
    exact Bindings.get?_of_repeat hrepeat
  · intro hdistinct b' others hothers hperm
    refine .of_quad (Bindings.toQuad?_congr fun name hname => ?_)
    refine Bindings.get?_of_perm hdistinct (fun p hp heq => ?_) hperm
    exact hothers p hp (heq ▸ hname)
  · intro hnone ω out w
    exact Output.accept_notAStatement hnone out w
  · intro q hq
    exact ⟨fun h w => h.accept_row hq w, endsLine_not_mem_quadOctets⟩

/-- A row in another order, with a column of another name among the four, converts alike; a second
binding of its subject does not count; without its predicate it is refused. -/
theorem conversion_of_four_columns :
    let subject : Variable × Term := (⟨"s"⟩, .blank "a.b")
    let predicate : Variable × Term := (⟨"p"⟩, .iri "urn:p")
    let object : Variable × Term := (⟨"o"⟩, .literal (.plain "a\nb"))
    let graph : Variable × Term := (⟨"g"⟩, .iri "urn:g")
    let other : Variable × Term := (⟨"x"⟩, .literal (.plain "y"))
    let b : Bindings := ⟨[subject, predicate, object, graph]⟩
    let b' : Bindings := ⟨[graph, other, object, predicate, subject]⟩
    let repeated : Bindings := ⟨[subject, predicate, object, graph, (⟨"s"⟩, .iri "urn:s")]⟩
    let lacking : Bindings := ⟨[subject, object, graph, other]⟩
    let q : Quad := ⟨.blank ⟨"a.b"⟩, ⟨"urn:p"⟩, .literal (.plain "a\nb"), some (.iri ⟨"urn:g"⟩)⟩
    b.States q ∧ Alike b b' ∧ Alike repeated b ∧ q.isWellFormed = true ∧
      endsLine ∉ quadOctets q ∧
      (∃ w, (Output.nquads .memory).accept (.row b') [] = (.ok (), w) ∧
        w = [] ++ (quadOctets q ++ [endsLine])) ∧
      (Output.nquads .memory).accept (.row lacking) [] =
        (.error (.protocol (.notAStatement lacking)), []) := by
  intro subject predicate object graph other b b' repeated lacking q
  have hq : b.toQuad? = some q := by decide
  obtain ⟨hstates, -, -, halike, -, hwritten⟩ := conversion_exact b
  obtain ⟨-, -, hrepeat, -⟩ := conversion_exact repeated
  obtain ⟨-, -, -, -, hrefused, -⟩ := conversion_exact lacking
  have hb' : Alike b b' := halike (by decide) b' [other] (by decide) (by decide)
  have hwell : q.isWellFormed = true := by decide
  refine ⟨(hstates q).1 hq, hb', ?_, hwell, (hwritten q hq).2 hwell, ?_, ?_⟩
  · exact hrepeat [subject, predicate, object, graph] ⟨"s"⟩ (.iri "urn:s") [] rfl
      ⟨subject, by simp, rfl⟩
  · rw [hb'.written (by decide)]
    exact (hwritten q hq).1 Output.accepts_memory []
  · exact hrefused (by decide) .memory []

end RdfExport
