import Mathlib.Data.List.Basic
import Mathlib.Data.String.Basic

/-!
# The piece fetcher's URL: `get_host_and_file`

The HTTP piece fetcher reads a remote file URL as `host|file`: it splits the string at every `|`
and accepts exactly two parts.

* `getHostAndFile` is the faithful transcription, on Lean's `String.split`, which splits at every
  matching character and keeps empty parts, as Rust's `str::split` does.
* `split_bar`: the split is `List.splitOn` on the characters, so that its parts are one more than
  the separators (`length_splitOnP`) and joined back by the separator give the string
  (`List.intercalate_splitOn`).
* **`getHostAndFile_spec`**: the function accepts exactly the strings with one `|`, returns the two
  sides, which join back to the string and hold no `|`; conversely every `h|f` with no `|` in `h`
  and `f` is accepted as `(h, f)`, and every other string is rejected with its message.
-/

namespace Damocles.Fetcher

/-- The error of a remote file URL that is not `host|file`.
Source: `InvalidRemoteFileUrl`
Kind: D
Fidelity: exact -/
structure InvalidRemoteFileUrl where
  message : String
deriving DecidableEq, Repr

/-- Split a remote file URL into its host and its file.
Source: `get_host_and_file`
Kind: D
Fidelity: exact (the test `parts.len() != 2` as the match's fallback) -/
def getHostAndFile (remoteFileUrl : String) : Except InvalidRemoteFileUrl (String × String) :=
  match remoteFileUrl.split (· == '|') with
  | [host, file] => .ok (host, file)
  | _ => .error ⟨"unknown remoteFileUrl: " ++ remoteFileUrl⟩

/-- A split has one part more than the separators it meets. -/
theorem length_splitOnP {α : Type} (p : α → Bool) (l : List α) :
    (l.splitOnP p).length = l.countP p + 1 := by
  induction l with
  | nil => rfl
  | cons x xs ih => by_cases h : p x <;> simp [List.splitOnP_cons, h, ih, List.countP_cons]

/-- `split('|')` is the list split at the separator. -/
theorem split_bar (u : String) : u.split (· == '|') = (u.data.splitOn '|').map String.mk :=
  String.split_of_valid u _

/-- `get_host_and_file` succeeds exactly on a string with one separator, with the two parts. -/
theorem getHostAndFile_ok_iff (u : String) (h f : String) :
    getHostAndFile u = .ok (h, f) ↔ u.data.splitOn '|' = [h.data, f.data] := by
  unfold getHostAndFile
  rw [split_bar]
  rcases u.data.splitOn '|' with _ | ⟨a, _ | ⟨b, _ | ⟨c, rest⟩⟩⟩ <;> simp [String.ext_iff]

example : getHostAndFile "http://a:1|f.car" = .ok ("http://a:1", "f.car") :=
  (getHostAndFile_ok_iff _ _ _).mpr (by decide)

/-- A split at `'|'` has one part more than the separators. -/
theorem length_splitOn_bar (l : List Char) : (l.splitOn '|').length = l.count '|' + 1 := by
  simpa [List.count] using length_splitOnP (· == '|') l

/-- A split into two parts is a string with one separator, between the two parts. -/
theorem splitOn_bar_eq_pair {l a b : List Char} :
    l.splitOn '|' = [a, b] ↔ l = a ++ '|' :: b ∧ '|' ∉ a ∧ '|' ∉ b := by
  constructor
  · intro h
    have hl : l = a ++ '|' :: b := by
      simpa [List.intercalate, h] using (List.intercalate_splitOn l '|').symm
    have hc := length_splitOn_bar l
    rw [h, hl] at hc
    simp only [List.length_cons, List.length_nil, List.count_append, List.count_cons_self] at hc
    exact ⟨hl, List.count_eq_zero.mp (by omega), List.count_eq_zero.mp (by omega)⟩
  · rintro ⟨rfl, ha, hb⟩
    rw [List.splitOn, List.splitOnP_first _ _ (fun x hx => by simpa using ne_of_mem_of_not_mem hx ha)
      _ (by simp), List.splitOnP_eq_single _ _ (fun x hx => by simpa using ne_of_mem_of_not_mem hx hb)]

/-- **What `get_host_and_file` accepts**: exactly the strings with one `|`, split into the two
sides, which join back to the string and hold no `|`; every `h|f` with no `|` in `h` and `f` is
accepted as `(h, f)`; every other string is rejected with its message.
Source: `get_host_and_file`
Kind: L -/
theorem getHostAndFile_spec (u : String) :
    ((∃ h f, getHostAndFile u = .ok (h, f)) ↔ u.data.count '|' = 1) ∧
    (∀ h f, getHostAndFile u = .ok (h, f) → h ++ "|" ++ f = u ∧ '|' ∉ h.data ∧ '|' ∉ f.data) ∧
    (∀ h f : String, '|' ∉ h.data → '|' ∉ f.data → getHostAndFile (h ++ "|" ++ f) = .ok (h, f)) ∧
    (u.data.count '|' ≠ 1 → getHostAndFile u = .error ⟨"unknown remoteFileUrl: " ++ u⟩) := by
  have hlen := length_splitOn_bar u.data
  refine ⟨⟨?_, ?_⟩, ?_, ?_, ?_⟩
  · rintro ⟨h, f, hu⟩
    rw [getHostAndFile_ok_iff] at hu
    simpa [hu] using hlen
  · intro hc
    obtain ⟨a, b, hab⟩ := List.length_eq_two.mp (hlen.trans (by rw [hc]))
    exact ⟨⟨a⟩, ⟨b⟩, (getHostAndFile_ok_iff u _ _).mpr hab⟩
  · intro h f hu
    obtain ⟨hu, ha, hb⟩ := splitOn_bar_eq_pair.mp ((getHostAndFile_ok_iff u h f).mp hu)
    exact ⟨String.ext (by simp [hu]), ha, hb⟩
  · intro h f ha hb
    exact (getHostAndFile_ok_iff _ h f).mpr (splitOn_bar_eq_pair.mpr ⟨by simp, ha, hb⟩)
  · intro hc
    unfold getHostAndFile
    split
    · rename_i hs
      rw [split_bar] at hs
      have := congrArg List.length hs
      simp only [List.length_map, hlen, List.length_cons, List.length_nil] at this
      omega
    · rfl

end Damocles.Fetcher
