namespace Telga.Library

variable {σ : Type u}

/-- A database file with the log of the transactions committed to it since they were last moved
over, the oldest first. -/
structure Wal (σ : Type u) where
  main : σ
  log : List (σ → σ)

def replay (changes : List (σ → σ)) (file : σ) : σ :=
  changes.foldl (fun file change => change file) file

/-- What a reader sees: the file with everything in the log. -/
def Wal.view (w : Wal σ) : σ :=
  replay w.log w.main

def Wal.commit (w : Wal σ) (change : σ → σ) : Wal σ :=
  { w with log := w.log ++ [change] }

/-- Move the oldest transactions of the log over to the file. -/
def Wal.checkpoint (w : Wal σ) (count : Nat) : Wal σ :=
  ⟨replay (w.log.take count) w.main, w.log.drop count⟩

@[simp] theorem Wal.view_commit (w : Wal σ) (change : σ → σ) :
    (w.commit change).view = change w.view := by
  simp [Wal.view, Wal.commit, replay]

/-- Readers do not notice a checkpoint. -/
@[simp] theorem Wal.view_checkpoint (w : Wal σ) (count : Nat) : (w.checkpoint count).view = w.view := by
  unfold Wal.view Wal.checkpoint replay
  rw [← List.foldl_append, List.take_append_drop]

/-- After a checkpoint of the whole log the file is what readers see. -/
theorem Wal.main_checkpoint {w : Wal σ} {count : Nat} (whole : w.log.length ≤ count) :
    (w.checkpoint count).main = w.view := by
  unfold Wal.view Wal.checkpoint
  rw [List.take_of_length_le whole]

end Telga.Library
