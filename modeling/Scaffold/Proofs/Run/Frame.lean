import Scaffold.Proofs.Run.Memory

/-!
# What a run leaves alone

A run touches the files of the pairs that it starts on, and no others. `startedPairs` are those
pairs: a run gets to them and does not skip them. What is declared by a pair that is skipped, or
that comes after a failure, has no part in it.

`Confined` says it of any part of a run. Some keys may be given other contents, and some of them may
be new; everything else, and everything protected, stays. Each operation is confined to its own
path, and parts that are confined one after another are confined together, so the failing end of a
run needs no argument of its own.

## Main results

* `Run.confined_writeBody`, `Run.confined_inject` — one operation; no injection adds a file
* `Run.confined_pair`, `Run.confined_pairs` — a run of pairs, whether or not it fails
* `Run.document_frame` — the same for documents
-/

namespace Scaffold

namespace Run

variable {wd : Option Path} {p q : Progress Memory}

/-! ### Confined parts of a run -/

/-- From one store to another no key outside of `changed` gets other contents and no key outside of
`created` becomes one. No file goes away, and what is protected stays as it is. -/
structure Confined (changed created : List Text) (m m' : Memory) : Prop where
  readOnly_eq : m'.readOnly = m.readOnly
  keys_subset : m.keys ⊆ m'.keys
  lookup_eq : ∀ key, key ∉ changed ∨ key ∈ m.readOnly → m'.files.lookup key = m.files.lookup key
  mem_created : ∀ key ∈ m'.keys, key ∈ m.keys ∨ key ∈ created

namespace Confined

variable {changed changed' created created' : List Text} {m m' m'' : Memory}

theorem refl (changed created : List Text) (m : Memory) : Confined changed created m m where
  readOnly_eq := rfl
  keys_subset := List.Subset.refl _
  lookup_eq _ _ := rfl
  mem_created _ h := Or.inl h

theorem mono (h : Confined changed created m m') (hchanged : changed ⊆ changed')
    (hcreated : created ⊆ created') : Confined changed' created' m m' where
  readOnly_eq := h.readOnly_eq
  keys_subset := h.keys_subset
  lookup_eq key hkey := h.lookup_eq key (hkey.imp_left fun hnot hin => hnot (hchanged hin))
  mem_created key hkey := (h.mem_created key hkey).imp_right fun hin => hcreated hin

/-- One part of a run after another. -/
theorem trans (h : Confined changed created m m') (h' : Confined changed' created' m' m'') :
    Confined (changed ++ changed') (created ++ created') m m'' where
  readOnly_eq := h'.readOnly_eq.trans h.readOnly_eq
  keys_subset := List.Subset.trans h.keys_subset h'.keys_subset
  lookup_eq key hkey := by
    rw [List.mem_append, not_or] at hkey
    have hlater : key ∉ changed' ∨ key ∈ m'.readOnly := by
      rw [h.readOnly_eq]
      exact hkey.imp_left And.right
    rw [h'.lookup_eq key hlater, h.lookup_eq key (hkey.imp_left And.left)]
  mem_created key hkey := by
    rw [List.mem_append]
    rcases h'.mem_created key hkey with hkey | hkey
    · exact (h.mem_created key hkey).imp_right Or.inl
    · exact Or.inr (Or.inr hkey)

/-- A write is confined to its path, which is new unless it is a key already. -/
theorem written {path : Path} (hfree : path.text ∉ m.readOnly)
    (hnew : path.text ∈ m.keys ∨ path.text ∈ created) (contents : Text) :
    Confined [path.text] created m (m.written path contents) where
  readOnly_eq := rfl
  keys_subset := Memory.keys_subset_written
  lookup_eq key hkey := by
    have hne : key ≠ path.text := by
      rintro rfl
      exact hkey.elim (fun hnot => hnot List.mem_cons_self) hfree
    exact Memory.lookup_put_of_ne hne _ _
  mem_created key hkey := by
    rcases Memory.mem_keys_written.mp hkey with rfl | hkey
    · exact hnew
    · exact Or.inl hkey

end Confined

/-! ### Operations -/

theorem confined_writeBody {path : Path} {body : Text} {a : Except Failure Unit}
    (h : writeBody path body p = (a, q)) : Confined [path.text] [path.text] p.store q.store := by
  cases writeBody_outcome h with
  | readOnly => exact .refl _ _ _
  | written hfree => exact .written hfree (Or.inr List.mem_cons_self) _

/-- What an injection patches is there before. A path that leads to a directory is not patched. -/
theorem confined_inject {j : Injection} {path : Path} {a : Except Failure Bool}
    (h : inject j path p = (a, q)) : Confined [path.text] [] p.store q.store := by
  cases inject_outcome h with
  | noTarget | notFound | satisfied | readOnly => exact .refl _ _ _
  | patched hfile _ hfree => exact .written hfree (Or.inl (Memory.mem_keys_of_lookup hfile)) _

theorem confined_injectAll {js : List Injection} {a : Except Failure Unit}
    (h : injectAll wd js p = (a, q)) :
    Confined (js.map fun j => keyOf wd j.target) [] p.store q.store := by
  induction js generalizing p with
  | nil =>
    obtain ⟨-, rfl⟩ : .ok () = a ∧ p = q := by simpa using h
    exact .refl _ _ _
  | cons j js ih =>
    cases a with
    | ok =>
      obtain ⟨b, p', hj, hrest⟩ := injectAll_cons_eq_ok_iff.mp h
      exact (confined_inject hj).trans (ih hrest)
    | error e =>
      rcases injectAll_cons_eq_error_iff.mp h with hj | ⟨b, p', hj, hrest⟩
      · exact (confined_inject hj).mono (by simp) (List.Subset.refl _)
      · exact (confined_inject hj).trans (ih hrest)

/-! ### Pairs -/

/-- The keys that a pair declares: its target, and those of its injections. -/
def declaredKeys (wd : Option Path) (x : Directive × Text) : List Text :=
  keyOf wd x.1.target :: x.1.injections.map fun j => keyOf wd j.target

theorem confined_pair {d : Directive} {body : Text} {a : Except Failure Result}
    (hskip : isSkipped wd d p.store = false) (h : pair wd d body p = (a, q)) :
    Confined (declaredKeys wd (d, body)) [keyOf wd d.target] p.store q.store := by
  cases a with
  | ok r =>
    rcases pair_eq_ok_iff.mp h with ⟨hskip', -, -⟩ | ⟨-, -, p', hbody, hjs⟩
    · exact absurd hskip' (by simp [hskip])
    · exact (confined_writeBody hbody).trans (confined_injectAll hjs)
  | error e =>
    obtain ⟨-, hbody | ⟨p', hbody, hjs⟩⟩ := pair_eq_error_iff.mp h
    · exact (confined_writeBody hbody).mono (by simp [declaredKeys]) (List.Subset.refl _)
    · exact (confined_writeBody hbody).trans (confined_injectAll hjs)

/-- A pair that is skipped changes no file, whatever it declares. -/
theorem store_eq_of_isSkipped {d : Directive} {body : Text} {a : Except Failure Result}
    (hskip : isSkipped wd d p.store = true) (h : pair wd d body p = (a, q)) :
    q.store = p.store := by
  rw [pair_of_isSkipped hskip] at h
  obtain ⟨-, rfl⟩ := Prod.mk.inj h
  rfl

/-- The pairs that a run starts on: those that it gets to and does not skip. The one that it fails
at is the last of them. -/
def startedPairs (wd : Option Path) :
    List (Directive × Text) → Progress Memory → List (Directive × Text)
  | [], _ => []
  | (d, body) :: ps, p =>
    (if isSkipped wd d p.store then [] else [(d, body)]) ++
      match pair wd d body p with
      | (.ok _, q) => startedPairs wd ps q
      | (.error _, _) => []

theorem startedPairs_sublist (wd : Option Path) (ps : List (Directive × Text))
    (p : Progress Memory) : (startedPairs wd ps p).Sublist ps := by
  induction ps generalizing p with
  | nil => exact List.Sublist.refl _
  | cons x ps ih =>
    have hrest : (match pair wd x.1 x.2 p with
        | (.ok _, q) => startedPairs wd ps q
        | (.error _, _) => []).Sublist ps := by
      split
      · exact ih _
      · exact List.nil_sublist _
    have hfirst : (if isSkipped wd x.1 p.store then [] else [(x.1, x.2)]).Sublist [x] := by
      split
      · exact List.nil_sublist _
      · exact List.Sublist.refl _
    exact hfirst.append hrest

/-- **A run of pairs is confined to those it starts on**, whether or not it fails. -/
theorem confined_pairs (wd : Option Path) (ps : List (Directive × Text)) (p : Progress Memory) :
    Confined ((startedPairs wd ps p).flatMap (declaredKeys wd))
      ((startedPairs wd ps p).map fun x => keyOf wd x.1.target) p.store
      (pairs wd ps p).2.store := by
  induction ps generalizing p with
  | nil => exact .refl _ _ _
  | cons x ps ih =>
    obtain ⟨d, body⟩ := x
    rcases hpair : pair wd d body p with ⟨a, q⟩
    rw [startedPairs, snd_pairs_cons, hpair, List.flatMap_append, List.map_append]
    have hfirst : Confined
        ((if isSkipped wd d p.store then [] else [(d, body)]).flatMap (declaredKeys wd))
        ((if isSkipped wd d p.store then [] else [(d, body)]).map fun x => keyOf wd x.1.target)
        p.store q.store := by
      cases hskip : isSkipped wd d p.store with
      | true =>
        rw [store_eq_of_isSkipped hskip hpair]
        exact .refl _ _ _
      | false => simpa using confined_pair hskip hpair
    refine hfirst.trans ?_
    cases a with
    | ok r => exact ih q
    | error e => exact .refl _ _ _

/-! ### Documents -/

/-- The pairs of a document, none if it cannot be read. -/
def pairsIn (s : Text) : List (Directive × Text) := (Document.parse s).toOption.getD []

/-- What a document leaves behind is what its pairs leave. -/
theorem snd_document (wd : Option Path) (s : Text) (p : Progress Memory) :
    (document wd s p).2 = (pairs wd (pairsIn s) p).2 := by
  rw [document, pairsIn]
  rcases Document.parse s with f | ps
  · rfl
  · rcases h : pairs wd ps p with ⟨_ | results, q⟩ <;> simp [Except.toOption, h]

/-- **A run touches only what the document declares.** Whether or not it fails, a file keeps its
contents unless it is declared, as a target or by an injection, by a pair that the run started on,
and a protected file keeps them in any case. No file goes away. A new file is the target of a pair
that the run started on, and so no injection has made it. -/
theorem document_frame (wd : Option Path) (s : Text) (p : Progress Memory) :
    let started := startedPairs wd (pairsIn s) p
    let final := (document wd s p).2.store
    started.Sublist (pairsIn s) ∧
      (∀ key, (∀ x ∈ started, key ≠ keyOf wd x.1.target ∧
          ∀ j ∈ x.1.injections, key ≠ keyOf wd j.target) →
        final.files.lookup key = p.store.files.lookup key) ∧
      (∀ key ∈ p.store.readOnly, final.files.lookup key = p.store.files.lookup key) ∧
      p.store.keys ⊆ final.keys ∧
      ∀ key ∈ final.keys, key ∈ p.store.keys ∨ ∃ x ∈ started, key = keyOf wd x.1.target := by
  intro started final
  have hframe := confined_pairs wd (pairsIn s) p
  rw [← snd_document] at hframe
  refine ⟨startedPairs_sublist _ _ _, ?_, ?_, hframe.keys_subset, ?_⟩
  · intro key hkey
    refine hframe.lookup_eq key (Or.inl fun hin => ?_)
    obtain ⟨x, hx, hin⟩ := List.mem_flatMap.mp hin
    rcases List.mem_cons.mp hin with rfl | hin
    · exact (hkey x hx).1 rfl
    · obtain ⟨j, hj, rfl⟩ := List.mem_map.mp hin
      exact (hkey x hx).2 j hj rfl
  · exact fun key hkey => hframe.lookup_eq key (Or.inr hkey)
  · intro key hkey
    refine (hframe.mem_created key hkey).imp_right fun hin => ?_
    obtain ⟨x, hx, rfl⟩ := List.mem_map.mp hin
    exact ⟨x, hx, rfl⟩

end Run

end Scaffold
