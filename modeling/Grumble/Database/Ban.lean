import Mathlib.Data.List.Basic

namespace Grumble.Database

/-! # The ban table

`BanWrite` and `BanRead` with the gorm calls read by their SQL meaning:
`Delete(&Ban{}, "TRUE")` deletes the rows matching `TRUE`, `Create` inserts,
`Find` under `Limit`/`Offset` selects a window of the matching rows, and the
`Count` chained after it runs the same statement as a count, so the window
applies to the one row the count returns.  The table is the list of its rows in
insertion order.
-/

/-- `database.Ban`, one row of `bans`; `Start` is kept as its instant. -/
structure Ban where
  serverID : UInt64 := 0
  base : List UInt8 := []
  mask : Int := 0
  name : String := ""
  hash : List UInt8 := []
  reason : String := ""
  start : Int := 0
  duraion : Int := 0
deriving DecidableEq, Repr

/-- gorm's `LIMIT`/`OFFSET` window: a negative limit is no limit, a non-positive
offset no offset. -/
def window {α : Type} (limit offset : Int) (rows : List α) : List α :=
  let rows := if 0 < offset then rows.drop offset.toNat else rows
  if 0 ≤ limit then rows.take limit.toNat else rows

/-- `BanWrite`: delete the rows matching `TRUE`, then insert `bans`; the table
after the call and the error it returns. `Create` of an empty slice fails with
gorm's `ErrEmptySlice` after the delete has run. -/
def banWrite (table bans : List Ban) : List Ban × Option String :=
  let table := table.filter fun _ => !true
  if bans.isEmpty then (table, some "empty slice found") else (table ++ bans, none)

/-- `BanRead`: the window of server `sid`'s rows, and the count the chained
statement returns (`0` when the window drops the count's row). -/
def banRead (table : List Ban) (sid : UInt64) (limit offset : Int) : List Ban × Nat :=
  let matching := table.filter fun ban => ban.serverID = sid
  (window limit offset matching, (window limit offset [matching.length]).headD 0)

theorem banRead_count_of_offset (table : List Ban) (sid : UInt64) (limit : Int) {offset : Int}
    (skipping : 0 < offset) : (banRead table sid limit offset).2 = 0 := by
  have dropped : [(table.filter fun ban => ban.serverID = sid).length].drop offset.toNat = [] :=
    List.drop_eq_nil_of_le (by simp; omega)
  simp only [banRead, window, if_pos skipping, dropped]
  split <;> simp

/-- Server 2's ban list, written after server 1's, erases it: reading server 1
then returns no bans and a count of 0. -/
theorem banWrite_erases_other_server :
    banRead (banWrite (banWrite [] [{ serverID := 1, duraion := 120 }]).1
      [{ serverID := 2, duraion := 120 }]).1 1 10 0 = ([], 0) := by
  decide

end Grumble.Database
