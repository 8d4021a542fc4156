import TogglDesktop.Store.Spec

namespace Kopsik
set_option autoImplicit true

/-! How `SaveUser` fails. An error it returns comes after a rollback, so the tables are as
they were; but nothing undoes the change records already appended or the models already
marked clean. And not every fault is turned into an error: `deleteFromTable`'s assertion and
the transaction calls outside the `try` blocks raise out of the call, leaving the transaction
open. -/

/-- Three runs in which a fault escapes `SaveUser` instead of coming back as an error: a
project marked as deleted on the server that was never stored reaches `deleteFromTable` with
`local_id` 0, whose assertion stands outside every `try`; and faults of `session->begin()`
and `session->commit()`, which stand outside every `try` too. The first and the last leave
the transaction open. -/
theorem saveUser_raises :
    (∃ w', (saveUser { base := { id := 1, localID := 5 }, data := {
        email := "a", apiToken := "t",
        related := { projects := [{ base := { isMarkedAsDeletedOnServer := true }, data := {} }] } } }
        true).run {} = .error (.assertion "local_id") w' ∧ w'.savepoint.isSome) ∧
    (∃ w', (saveUser { base := { id := 1 }, data := { email := "a", apiToken := "t" } } true).run
        { faults := [true] } = .error (.sql "disk I/O error") w') ∧
    (∃ w', (saveUser { base := { id := 1, localID := 5 }, data := { email := "a", apiToken := "t" } }
        true).run { faults := [false, true] } = .error (.sql "disk I/O error") w' ∧
        w'.savepoint.isSome) :=
  ⟨⟨_, rfl, rfl⟩, ⟨_, rfl⟩, ⟨_, rfl, rfl⟩⟩

end Kopsik
