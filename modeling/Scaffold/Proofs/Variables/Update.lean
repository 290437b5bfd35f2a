import Scaffold.Proofs.Value.Entries
import Scaffold.Variables

/-!
# Updating mappings

An assignment changes a mapping in place, and so it changes every place where that mapping stands.
As long as no mapping on its way is shared there is one such place, and what it does is to put a
value into a tree: mappings are made where the way has none, and nothing beside the way changes.

A value that lies at a path of keys is found by walking down. Where a mapping begins again inside
of itself the walk goes on with the one around it, so what is found depends on the way alone and not
on other places of the same mapping.

## Main results

* `Value.follow_put` — what lies beside a path stays when a value is put there
* `Variables.assign_eq_inl` — an assignment on an open way puts its value into the tree
-/

namespace Scaffold

namespace Value

variable {s : Text} {k v w new : Value} {es : List (Value × Value)}

/-! ### Trees -/

/-- The entries of a mapping, and none of anything else. -/
def entries : Value → List (Value × Value)
  | map _ es => es
  | _ => []

/-- The label of a mapping. -/
def label? : Value → Option Nat
  | map label _ => label
  | _ => none

/-- The value under a name, `null` if there is none. -/
def under (key : Text) (v : Value) : Value := (lookup? (.text key) v.entries).getD .null

/-- A value put at a path of names. What is no mapping on the way becomes one. -/
def put : (path : List Text) → (new : Value) → Value → Value
  | [], new, _ => new
  | key :: path, new, v => .map v.label? (insert (.text key) (put path new (v.under key)) v.entries)

/-- Whether a value is a mapping that stands at other places too. -/
def isShared : Value → Bool
  | map label _ => label.isSome
  | cycle _ ofMap => ofMap
  | _ => false

/-- No mapping on the way to what a path leads to is shared. -/
def IsOpen : (path : List Text) → Value → Prop
  | [], _ => True
  | key :: path, v => v.isShared = false ∧ IsOpen path (v.under key)

instance : (path : List Text) → (v : Value) → Decidable (IsOpen path v)
  | [], _ => inferInstanceAs (Decidable True)
  | key :: path, v =>
    have := instDecidableIsOpen path (v.under key)
    inferInstanceAs (Decidable (_ ∧ _))

@[simp] theorem entries_put_cons (key : Text) (path : List Text) (new v : Value) :
    (put (key :: path) new v).entries =
      insert (.text key) (put path new (v.under key)) v.entries := rfl

@[simp] theorem isShared_put_cons (key : Text) (path : List Text) (new v : Value) :
    (put (key :: path) new v).isShared = v.label?.isSome := rfl

theorem under_put_self (key : Text) (path : List Text) (new v : Value) :
    (put (key :: path) new v).under key = put path new (v.under key) := by
  rw [under, entries_put_cons, lookup?_insert_self, Option.getD_some]

theorem under_put_of_ne {key' : Text} (h : key' ≠ key) (path : List Text) (new v : Value) :
    (put (key :: path) new v).under key' = v.under key' := by
  rw [under, entries_put_cons, lookup?_insert_of_ne (by simpa using h), ← under]

theorem label?_eq_none (h : v.isShared = false) : v.label? = none := by
  cases v <;> simp_all [isShared, label?]

/-- A value that is no mapping is open to every path: mappings are made from there on. -/
theorem isOpen_of_entries_eq_nil (path : List Text) (hshared : v.isShared = false)
    (hentries : v.entries = []) : IsOpen path v := by
  induction path generalizing v with
  | nil => trivial
  | cons key path ih =>
    have hunder : v.under key = .null := by rw [under, hentries]; rfl
    exact ⟨hshared, hunder ▸ ih rfl rfl⟩

/-- Putting a value that is no mapping somewhere leaves the ways open that were. -/
theorem IsOpen.put {path path' : List Text} (hshared : new.isShared = false)
    (hentries : new.entries = []) (h : IsOpen path v) (h' : IsOpen path' v) :
    IsOpen path' (Value.put path new v) := by
  induction path generalizing path' v with
  | nil => exact isOpen_of_entries_eq_nil path' hshared hentries
  | cons key path ih =>
    cases path' with
    | nil => trivial
    | cons key' path' =>
      refine ⟨by rw [isShared_put_cons, label?_eq_none h.1]; rfl, ?_⟩
      by_cases hkey : key' = key
      · subst hkey
        rw [under_put_self]
        exact ih h.2 h'.2
      · rw [under_put_of_ne hkey]
        exact h'.2

/-! ### What lies at a path -/

/-- The mapping that a value is, with the labelled mappings around its entries, the innermost
first. One that begins again is the one around it. -/
def opened (around : List (Nat × List (Value × Value))) :
    Value → List (Nat × List (Value × Value)) × List (Value × Value)
  | map none es => (around, es)
  | map (some label) es => ((label, es) :: around, es)
  | cycle label true =>
    let outer := around.dropWhile fun mapping => mapping.1 ≠ label
    (outer, (outer.head?.map (·.2)).getD [])
  | _ => (around, [])

/-- What lies at a path of keys in a value that has the labelled mappings around it. -/
def follow (around : List (Nat × List (Value × Value))) : List Value → Value → Option Value
  | [], v => some v
  | key :: path, v =>
    (lookup? key (v.opened around).2).bind (follow (v.opened around).1 path)

/-- What lies at a path of keys. -/
def at? (v : Value) (path : List Value) : Option Value := follow [] path v

/-- Two paths that part before either of them ends. -/
def AreApart (path path' : List Value) : Prop := ¬path <+: path' ∧ ¬path' <+: path

theorem opened_of_isShared {around : List (Nat × List (Value × Value))}
    (h : v.isShared = false) : v.opened around = (around, v.entries) := by
  cases v with
  | map label es => cases label <;> simp_all [isShared, opened, entries]
  | cycle label ofMap => cases ofMap <;> simp_all [isShared, opened, entries]
  | _ => rfl

/-- **What lies beside a path stays** when a value is put there, if no mapping on the way is
shared. -/
theorem follow_put {path : List Text} {keys : List Value}
    {around : List (Nat × List (Value × Value))} (hopen : IsOpen path v)
    (hapart : AreApart (path.map .text) keys) :
    follow around keys (put path new v) = follow around keys v := by
  induction path generalizing keys v with
  | nil => exact absurd List.nil_prefix hapart.1
  | cons key path ih =>
    cases keys with
    | nil => exact absurd List.nil_prefix hapart.2
    | cons k keys =>
      have hput : (put (key :: path) new v).isShared = false := by
        rw [isShared_put_cons, label?_eq_none hopen.1]
        rfl
      rw [follow, follow, opened_of_isShared hput, opened_of_isShared hopen.1, entries_put_cons]
      by_cases hk : k = .text key
      · subst hk
        have hrest : AreApart (path.map .text) keys := by
          simpa [AreApart, List.cons_prefix_cons] using hapart
        rw [lookup?_insert_self, Option.bind_some, ih hopen.2 hrest, under]
        cases lookup? (.text key) v.entries with
        | some w => rfl
        | none =>
          -- nothing lies below nothing, and the way below is not at its end
          cases keys with
          | nil => exact absurd List.nil_prefix hrest.2
          | cons k keys => rfl
      · rw [lookup?_insert_of_ne hk]

end Value

namespace Variables

open Value

variable {path : List Text} {label : Option Nat} {es : Entries} {new : Value}

/-- New mappings around a value are what putting it makes of a value that is no mapping. -/
theorem nest_eq_put (path : List Text) (new : Value) {v : Value} (hshared : v.isShared = false)
    (hentries : v.entries = []) : nest path new = put path new v := by
  induction path generalizing v with
  | nil => rfl
  | cons key path ih =>
    have hunder : v.under key = .null := by rw [under, hentries]; rfl
    rw [nest, put, label?_eq_none hshared, hentries, hunder, ih (v := .null) rfl rfl]
    rfl

/-- An assignment on an open way changes the entries as putting its value does. -/
theorem assign_eq_inl (root : Value) (hpath : path ≠ []) (hopen : IsOpen path (.map label es)) :
    assign root path label es new = .inl (put path new (.map label es)).entries := by
  induction path generalizing label es with
  | nil => exact absurd rfl hpath
  | cons key path ih =>
    obtain rfl : label = none := label?_eq_none hopen.1
    cases path with
    | nil => rfl
    | cons next path =>
      have hbelow := hopen.2
      simp only [entries_put_cons, assign]
      rcases hlookup : lookup? (.text key) es with _ | w
      · have hunder : (Value.map none es).under key = .null := by
          rw [under, Value.entries, hlookup]
          rfl
        rw [hunder, nest_eq_put _ _ (v := .null) rfl rfl]
        rfl
      · have hunder : (Value.map none es).under key = w := by
          rw [under, Value.entries, hlookup]
          rfl
        rw [hunder] at hbelow ⊢
        cases w with
        | map l sub =>
          obtain rfl : l = none := label?_eq_none hbelow.1
          dsimp only
          rw [ih (List.cons_ne_nil _ _) hbelow]
          rfl
        | cycle l ofMap =>
          cases ofMap with
          | true => exact absurd hbelow.1 (by simp [isShared])
          | false =>
            rw [← nest_eq_put _ _ (v := .cycle l false) rfl rfl]
            rfl
        | _ =>
          rw [← nest_eq_put _ _ rfl rfl]
          rfl

end Variables

end Scaffold
