import Mathlib.Control.Monad.Basic
import Scaffold.Proofs.Edit.Injection
import Scaffold.Proofs.Run.Memory

/-!
# Patching a file again

An injection writes its file with unified line ends even if the edit leaves the text as it is, so
what counts is the text with unified line ends. An injection whose guard is satisfied by every text
that holds the payload leaves the file as it is when it is carried out again.

The payload must have no carriage return. One that has is no longer found once line ends are
unified, and then the guard says nothing about what is in the file.

## Main results

* `Run.inject_files_of_patched` — a patched file stays as it is
* `Run.inject_twice` — a guarded injection is carried out once
-/

namespace Scaffold

namespace Run

variable {j : Injection} {path : Path} {p q : Progress Memory} {contents : Text}

theorem exists_inject_eq_ok (j : Injection) (hfile : p.store.files.lookup path.text = some contents)
    (hfree : path.text ∉ p.store.readOnly) : ∃ b, (inject j path p).1 = .ok b := by
  rw [inject_of_lookup j hfile, if_neg hfree]
  split
  · exact ⟨false, rfl⟩
  · exact ⟨true, rfl⟩

/-- A guarded injection changes no file when the file holds what it made of some text. -/
theorem inject_files_of_patched (hpayload : '\r' ∉ j.payload)
    (hguard : ∀ t, j.payload <:+: t → j.isSatisfied t = true) {s : Text} (hs : '\r' ∉ s)
    (hfile : p.store.files.lookup path.text = some (j.patch s)) :
    (inject j path p).2.store.files = p.store.files := by
  -- the text has no carriage return, so it is read back as it was written
  have hunified : Text.unifyNewlines (j.patch s) = j.patch s :=
    Text.unifyNewlines_of_not_mem (Injection.cr_not_mem_patch hpayload hs)
  have hstays : j.patch (j.patch s) = j.patch s := Injection.patch_patch hguard s
  rw [inject_of_lookup j hfile, hunified]
  split
  · rfl
  · rename_i hsat
    rw [Injection.patch, if_neg hsat] at hstays
    split
    · rfl
    · change Memory.put path.text _ p.store.files = p.store.files
      rw [hstays, Memory.put_of_lookup hfile]

/-- **A guarded injection is carried out once.** When its guard is satisfied by every text that
holds the payload, carrying it out again changes no file, whatever its placement. Both times
succeed unless the file is protected, and the file then holds the patched text. -/
theorem inject_twice (hpayload : '\r' ∉ j.payload)
    (hguard : ∀ t, j.payload <:+: t → j.isSatisfied t = true)
    (hfile : p.store.files.lookup path.text = some contents) :
    ∃ a b once twice, inject j path p = (a, once) ∧ inject j path once = (b, twice) ∧
      twice.store.files = once.store.files ∧
      (path.text ∉ p.store.readOnly → (∃ x y, a = .ok x ∧ b = .ok y) ∧
        ∃ c, once.store.files.lookup path.text = some c ∧
          Text.unifyNewlines c = j.patch (Text.unifyNewlines contents)) := by
  have hclean := Text.cr_not_mem_unifyNewlines contents
  have honce := inject_of_lookup j hfile
  split at honce
  · rename_i hsat
    exact ⟨_, _, _, _, honce, honce, rfl, fun _ => ⟨⟨false, false, rfl, rfl⟩, contents, hfile, by
      rw [Injection.patch, if_pos hsat]⟩⟩
  · rename_i hsat
    have hpatch : j.patch (Text.unifyNewlines contents) =
        j.apply (Text.unifyNewlines contents) := by
      rw [Injection.patch, if_neg hsat]
    rw [← hpatch] at honce
    split at honce
    · rename_i hprotected
      have htwice := inject_of_lookup (p := { p with notes := p.notes ++ notesOf j }) j hfile
      rw [if_neg hsat, if_pos hprotected] at htwice
      exact ⟨_, _, _, _, honce, htwice, rfl, fun hfree => absurd hprotected hfree⟩
    · rename_i hfree
      have hwritten := Memory.lookup_put_self path.text
        (j.patch (Text.unifyNewlines contents)) p.store.files
      obtain ⟨b, hb⟩ := exists_inject_eq_ok
        (p := p.wrote .injected path (j.patch (Text.unifyNewlines contents))
          (notesOf j ++ [.injected (j.placement.map fun q => Text.of q.key) path]))
        j hwritten hfree
      exact ⟨_, _, _, _, honce, rfl, inject_files_of_patched hpayload hguard hclean hwritten,
        fun _ => ⟨⟨true, b, rfl, hb⟩, _, hwritten,
          Text.unifyNewlines_of_not_mem (Injection.cr_not_mem_patch hpayload hclean)⟩⟩

/-- An injection in front of every match in a line, guarded by the payload itself. -/
def besideMatches : Injection :=
  ⟨['m'], Text.of "yz", true, some ⟨Text.of "yz", .none, Pattern.literal (Text.of "yz")⟩,
    some (.beside .before .all ⟨['a'], .none, .code 97⟩)⟩

theorem inject_twice_besideMatches :
    let path := Path.ofText ['m']
    let p : Progress Memory := ⟨⟨[(['m'], Text.of "a-a\r\nb\ra")], [], []⟩, [], []⟩
    (inject besideMatches path p).2.store.files = [(['m'], Text.of "yza-yza\nb\nyza")] ∧
      ∃ a b once twice, inject besideMatches path p = (a, once) ∧
        inject besideMatches path once = (b, twice) ∧ twice.store.files = once.store.files ∧
        (path.text ∉ p.store.readOnly → (∃ x y, a = .ok x ∧ b = .ok y) ∧
          ∃ c, once.store.files.lookup path.text = some c ∧
            Text.unifyNewlines c =
              besideMatches.patch (Text.unifyNewlines (Text.of "a-a\r\nb\ra"))) := by
  intro path p
  have hguard : ∀ t, besideMatches.payload <:+: t → besideMatches.isSatisfied t = true :=
    fun _ h => Pattern.isFound_literal _ h
  exact ⟨by decide +kernel, inject_twice (by decide +kernel) hguard (by decide +kernel)⟩

end Run

end Scaffold
