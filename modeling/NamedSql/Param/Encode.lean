import NamedSql.Param.Basic

/-!
Plain Lean values as scalar values and as parameters. A missing value is null as
a value and an empty optional as a parameter.
-/

namespace NamedSql

class ToValue (α : Type) where
  toValue : α → Value

export ToValue (toValue)

class ToParam (α : Type) where
  toParam : α → Param

export ToParam (toParam)

section Values

instance : ToValue Value := ⟨id⟩

instance : ToValue Bool := ⟨.bool⟩

instance : ToValue Int := ⟨.int⟩

instance : ToValue Binary64 := ⟨.float⟩

instance : ToValue Binary32 := ⟨fun x => .float x.widen⟩

instance : ToValue String := ⟨.text⟩

instance : ToValue (List UInt8) := ⟨.bytes⟩

instance : ToValue Timestamp := ⟨.timestamp⟩

instance {α : Type} [ToValue α] : ToValue (Option α) :=
  ⟨fun
    | none => .null
    | some x => toValue x⟩

end Values

section Params

instance : ToParam Param := ⟨id⟩

instance : ToParam Value := ⟨.scalar⟩

instance : ToParam Bool := ⟨fun b => .scalar (toValue b)⟩

instance : ToParam Int := ⟨fun n => .scalar (toValue n)⟩

instance : ToParam Binary64 := ⟨fun x => .scalar (toValue x)⟩

instance : ToParam Binary32 := ⟨fun x => .scalar (toValue x)⟩

instance : ToParam String := ⟨fun s => .scalar (toValue s)⟩

instance : ToParam Timestamp := ⟨fun t => .scalar (toValue t)⟩

variable {α : Type} [ToParam α]

instance : ToParam (Option α) := ⟨fun x => .optional (x.map toParam)⟩

instance : ToParam (List α) := ⟨fun items => .sequence (items.map toParam)⟩

/-- Values under text keys, in the order given. -/
def Param.ofEntries (entries : List (String × α)) : Param :=
  .mapping (entries.map fun (key, value) => (toParam key, toParam value))

end Params

end NamedSql
