import CallMonitor.Files

/-!
Files that have been written. A file can be written at a path or not, whatever it is to hold; once
written it stands at that path, because the way there leads through directories and the file is
none.
-/

namespace CallMonitor.FileTree

open CallMonitor.Text

variable {tree : FileTree} {place : Place} {entry : FileEntry}

def IsWritable (tree : FileTree) (path : String) : Prop :=
  ∀ contents, ∃ later, tree.write path contents = .ok later

theorem entry_at_put (named : place ≠ []) : (tree.put place entry).entryAt place = some entry := by
  rw [entryAt, if_neg named, put, List.lookup_cons_self]

theorem entry_at_put_other {other : Place} (apart : other ≠ place) :
    (tree.put place entry).entryAt other = tree.entryAt other := by
  have kept : (tree.entries.filter fun item => item.1 ≠ place).lookup other =
      tree.entries.lookup other := by
    induction tree.entries with
    | nil => rfl
    | cons item items ih =>
        obtain ⟨key, held⟩ := item
        by_cases same : key = place
        · have missed : (other == key) = false := by
            rw [beq_eq_false_iff_ne, same]
            exact apart
          rw [List.filter_cons_of_neg (by simp [same]), List.lookup_cons, missed]
          exact ih
        · rw [List.filter_cons_of_pos (by simp [same]), List.lookup_cons, List.lookup_cons, ih]
  have missed : (other == place) = false := beq_eq_false_iff_ne.mpr apart
  unfold entryAt put
  dsimp only
  rw [List.lookup_cons, missed]
  dsimp only
  rw [kept]

/-- A step of a way leads on from a directory, to the same place in every tree. -/
theorem follow_step {start : Place} {step : String} {rest : List String}
    (followed : tree.follow start (step :: rest) = .ok place) :
    tree.entryAt start = some .directory ∧ ∃ next, tree.follow next rest = .ok place ∧
      ∀ other : FileTree, other.entryAt start = some .directory →
        other.follow start (step :: rest) = other.follow next rest := by
  rw [follow] at followed
  split at followed
  · cases followed
  · cases followed
  · rename_i held
    refine ⟨held, ?_⟩
    split at followed
    · rename_i same
      exact ⟨start, followed, fun other there => by simp [follow, there, same]⟩
    · rename_i different
      split at followed
      · rename_i up
        exact ⟨_, followed, fun other there => by simp [follow, there, up]⟩
      · rename_i down
        split at followed
        · cases followed
        · rename_i short
          exact ⟨_, followed, fun other there => by simp [follow, there, different, down, short]⟩

/-- A way does not change when a place that is no directory is filled. -/
theorem follow_put (solid : tree.entryAt place ≠ some .directory) {start : Place}
    {steps : List String} (followed : tree.follow start steps = .ok place) :
    (tree.put place entry).follow start steps = .ok place := by
  induction steps generalizing start with
  | nil => exact followed
  | cons step steps ih =>
      obtain ⟨held, next, further, alike⟩ := follow_step followed
      have apart : start ≠ place := by
        rintro rfl
        exact solid held
      rw [alike _ ((entry_at_put_other apart).trans held)]
      exact ih further

theorem locate_eq_ok_iff {path : String} :
    tree.locate path = .ok place ↔
      path.isEmpty = false ∧ path.toList.contains '\x00' = false ∧
        tree.follow (if path.toList.head? = some '/' then [] else tree.current) (steps path) =
          .ok place ∧
        (endsInSlash path = true → ∀ contents, tree.entryAt place ≠ some (.file contents)) := by
  unfold locate
  cases path.isEmpty with
  | true => simp
  | false =>
      cases path.toList.contains '\x00' with
      | true => simp
      | false =>
          simp only [Bool.false_eq_true, if_false, true_and]
          generalize (if path.toList.head? = some '/' then [] else tree.current) = start
          cases followed : tree.follow start (steps path) with
          | error reason => simp
          | ok reached =>
              dsimp only
              constructor
              · intro located
                split at located
                · cases located
                · rename_i plain
                  cases located
                  exact ⟨rfl, fun slash contents held => plain contents slash held⟩
              · rintro ⟨⟨⟩, plain⟩
                split
                · rename_i contents slash held
                  exact absurd held (plain slash contents)
                · rfl

/-- Where a file can be written: at a place that is no directory. -/
structure Accepts (tree : FileTree) (path : String) (place : Place) : Prop where
  located : tree.locate path = .ok place
  solid : tree.entryAt place ≠ some .directory
  named : endsInSlash path = false
  writes : ∀ contents, tree.write path contents = .ok (tree.put place (.file contents))

/-- Whether a file can be written does not depend on what it is to hold. -/
theorem refused_or_accepts (tree : FileTree) (path : String) :
    (∃ reason, ∀ contents, tree.write path contents = .error reason) ∨
      ∃ place, tree.Accepts path place := by
  cases located : tree.locate path with
  | error reason => exact .inl ⟨reason, fun contents => by rw [write, located]⟩
  | ok place =>
      cases held : tree.entryAt place with
      | none =>
          cases slash : endsInSlash path with
          | true =>
              exact .inl ⟨.isADirectory, fun contents => by
                simp [write, located, held, slash]⟩
          | false =>
              cases ready : tree.parentReady place with
              | error reason =>
                  exact .inl ⟨reason, fun contents => by
                    simp [write, located, held, slash, ready]⟩
              | ok =>
                  exact .inr ⟨place, located, by simp [held], slash, fun contents => by
                    simp [write, located, held, slash, ready]⟩
      | some found =>
          cases found with
          | directory =>
              exact .inl ⟨.isADirectory, fun contents => by simp [write, located, held]⟩
          | file old =>
              have named : endsInSlash path = false := by
                rw [Bool.eq_false_iff]
                intro slash
                exact (locate_eq_ok_iff.mp located).2.2.2 slash old held
              exact .inr ⟨place, located, by simp [held], named, fun contents => by
                simp [write, located, held]⟩

theorem accepts_of_write {path : String} {contents : Bytes} {later : FileTree}
    (written : tree.write path contents = .ok later) :
    ∃ place, tree.Accepts path place ∧ later = tree.put place (.file contents) := by
  rcases refused_or_accepts tree path with ⟨reason, refused⟩ | ⟨place, accepts⟩
  · rw [refused] at written
    cases written
  · rw [accepts.writes] at written
    cases written
    exact ⟨place, accepts, rfl⟩

theorem is_writable_of_write {path : String} {contents : Bytes} {later : FileTree}
    (written : tree.write path contents = .ok later) : tree.IsWritable path := by
  obtain ⟨place, accepts, -⟩ := accepts_of_write written
  exact fun contents => ⟨_, accepts.writes contents⟩

theorem look_write {path : String} {contents : Bytes} {later : FileTree}
    (written : tree.write path contents = .ok later) : later.look path = .file contents := by
  obtain ⟨place, accepts, rfl⟩ := accepts_of_write written
  have named : place ≠ [] := by
    rintro rfl
    exact accepts.solid rfl
  have found := @entry_at_put tree place (.file contents) named
  have located : (tree.put place (.file contents)).locate path = .ok place := by
    obtain ⟨nonempty, clean, followed, -⟩ := locate_eq_ok_iff.mp accepts.located
    refine locate_eq_ok_iff.mpr ⟨nonempty, clean, follow_put accepts.solid followed, ?_⟩
    intro slash
    rw [accepts.named] at slash
    cases slash
  rw [look, located]
  dsimp only
  rw [found]

end CallMonitor.FileTree
