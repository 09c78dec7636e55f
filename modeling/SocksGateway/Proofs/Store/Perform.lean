import SocksGateway.Store.Basic

/-!
What the steps of an action do to a store. Only a commit changes it, and only when the file takes the
new text.
-/

set_option autoImplicit false

namespace SocksGateway

/-- What is written is all of the text, and nothing was in the way. -/
theorem DataFile.eq_of_write {file after : DataFile} {text : String}
    (taken : file.write text = .ok after) :
    file.obstacle = none ∧ after = { file with content := some text } := by
  unfold write at taken
  split at taken
  · cases taken
  · rename_i clear
    cases taken
    exact ⟨clear, rfl⟩

theorem DataFile.obstacle_of_write {file : DataFile} {text : String} {failure : Failure}
    (failed : file.write text = .error failure) : file.obstacle ≠ none := by
  intro clear
  rw [write, clear] at failed
  cases failed

namespace Store

section

variable {α β γ : Type} {store : Store α}

@[simp] theorem perform_pure (value : β) :
    store.perform (pure value : Action α β) = (.ok value, store) := rfl

@[simp] theorem perform_get : store.perform (get : Action α (Store α)) = (.ok store, store) := rfl

@[simp] theorem perform_refuse (text : String) :
    store.perform (refuse text : Action α β) = (.error { cause := .store text }, store) := rfl

theorem perform_bind_of_ok {action : Action α β} {next : β → Action α γ} {value : β}
    {after : Store α} (done : store.perform action = (.ok value, after)) :
    store.perform (action >>= next) = after.perform (next value) := by
  unfold perform at done ⊢
  rw [ExceptT.run_bind, StateT.run_bind, done]
  rfl

theorem perform_bind_of_error {action : Action α β} {next : β → Action α γ} {failure : Failure}
    {after : Store α} (failed : store.perform action = (.error failure, after)) :
    store.perform (action >>= next) = (.error failure, after) := by
  unfold perform at failed ⊢
  rw [ExceptT.run_bind, StateT.run_bind, failed]
  rfl

@[simp] theorem perform_get_bind (next : Store α → Action α γ) :
    store.perform (get >>= next) = store.perform (next store) :=
  perform_bind_of_ok perform_get

@[simp] theorem perform_refuse_bind (text : String) (next : β → Action α γ) :
    store.perform (refuse text >>= next) = (.error { cause := .store text }, store) :=
  perform_bind_of_error (perform_refuse text)

@[simp] theorem perform_pure_bind (value : β) (next : β → Action α γ) :
    store.perform (pure value >>= next) = store.perform (next value) :=
  perform_bind_of_ok (perform_pure value)

end

variable {α β : Type} [Recorded α] {store : Store α}

/-- The records are in the file and in memory, or nothing changed. -/
theorem perform_commit (records : List α) :
    store.perform (commit records) =
      match store.file.write (render records) with
      | .ok file => (.ok (), { records, file })
      | .error failure => (.error failure, store) := by
  unfold commit
  rw [perform_get_bind]
  cases store.file.write (render records) with
  | ok file => rfl
  | error failure => rfl

/-- What comes after a commit is done with the new records, or not at all. -/
theorem perform_commit_bind (records : List α) (next : Unit → Action α β) :
    store.perform (commit records >>= next) =
      match store.file.write (render records) with
      | .ok file => ({ records, file } : Store α).perform (next ())
      | .error failure => (.error failure, store) := by
  have committed : store.perform (commit records) = _ := perform_commit records
  cases written : store.file.write (render records) with
  | ok file =>
    rw [written] at committed
    exact perform_bind_of_ok committed
  | error failure =>
    rw [written] at committed
    exact perform_bind_of_error committed

/-- The store once these records were written. -/
def holding (store : Store α) (records : List α) : Store α :=
  { records, file := { store.file with content := some (render records) } }

@[simp] theorem records_holding (store : Store α) (records : List α) :
    (store.holding records).records = records := rfl

theorem write_of_clear {file : DataFile} (clear : file.obstacle = none) (text : String) :
    file.write text = .ok { file with content := some text } := by
  rw [DataFile.write, clear]

theorem perform_commit_bind_of_clear (clear : store.file.obstacle = none) (records : List α)
    (next : Unit → Action α β) :
    store.perform (commit records >>= next) = (store.holding records).perform (next ()) := by
  rw [perform_commit_bind, write_of_clear clear]
  rfl

end Store

end SocksGateway
