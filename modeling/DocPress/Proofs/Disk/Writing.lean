import DocPress.Disk

/-!
# Writing to a tree

A file that was written holds what was written: writing puts a file where no directory
is, so that the way there stays what it was.

Main results:

- `read_of_write`: what is read after writing is what was written.
- `read_of_writeText`: also if directories were made first.
-/

namespace DocPress.Tree

variable {tree after : Tree}

/-- Putting something where no directory is does not change where names lead. -/
theorem follow_put {way : List (List Char)} (hway : tree.lookup way ≠ some .directory)
    (node : TreeNode) {place target : List (List Char)} {names : List (List Char)}
    (h : tree.follow place names = .ok target) :
    (tree.put way node).follow place names = .ok target := by
  induction names generalizing place with
  | nil => exact h
  | cons name names ih =>
    rw [follow] at h
    -- Only directories are passed on the way.
    cases hl : tree.lookup place with
    | none => simp [hl] at h
    | some found =>
      cases found with
      | file bytes => simp [hl] at h
      | directory =>
        have hne : place ≠ way := by
          rintro rfl
          exact hway hl
        rw [follow, lookup_put_of_ne tree node hne, hl]
        simp only [hl] at h ⊢
        by_cases hup : name = ['.', '.']
        · rw [if_pos hup] at h ⊢
          exact ih h
        · rw [if_neg hup] at h ⊢
          by_cases hlong : 255 < (Text.encode name).length
          · simp [hlong] at h
          · rw [if_neg hlong] at h ⊢
            exact ih h

/-- What is read after writing is what was written. -/
theorem read_of_write {path : Path} {bytes : List UInt8} (h : tree.write path bytes = .ok after) :
    after.read path = .ok bytes := by
  rw [write] at h
  cases hw : tree.wayTo path with
  | error reason => simp [hw] at h
  | ok way =>
    simp only [hw] at h
    by_cases hd : tree.lookup way = some .directory
    · simp [hd] at h
    · rw [if_neg hd] at h
      cases h
      have hroot : way ≠ [] := by
        rintro rfl
        exact hd rfl
      have hway : (tree.put way (.file bytes)).wayTo path = .ok way := by
        rw [wayTo] at hw ⊢
        by_cases hlong : 4096 ≤ (Text.encode path.text).length
        · simp [hlong] at hw
        · rw [if_neg hlong] at hw ⊢
          exact follow_put hd (.file bytes) hw
      rw [read, hway]
      simp only [lookup_put_self tree (.file bytes) hroot]

/-- What is read after writing a text is what was written, also if directories were made
first. -/
theorem read_of_writeText {path : Path} {text : String}
    (h : (disk.writeText path text).run tree = (.ok (), after)) :
    after.read path = .ok (Text.encode text.toList) := by
  rcases hm : (disk.makeDirectories (path.names.length + 1) path.parent).run tree
    with ⟨fault | made, between⟩
  · rw [Disk.writeText, StateT.run_bind, hm] at h
    cases congrArg Prod.fst h
  · rw [Disk.writeText, StateT.run_bind, hm] at h
    have hwrite : keeping (fun tree => tree.write path (Text.encode text.toList)) between =
        (.ok (), after) := h
    rw [keeping] at hwrite
    cases hw : between.write path (Text.encode text.toList) with
    | error fault =>
      rw [hw] at hwrite
      cases congrArg Prod.fst hwrite
    | ok written =>
      rw [hw] at hwrite
      obtain rfl : written = after := congrArg Prod.snd hwrite
      exact read_of_write hw

end DocPress.Tree
