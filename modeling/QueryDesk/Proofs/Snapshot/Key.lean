import QueryDesk.Proofs.Datum.Printed
import QueryDesk.Proofs.Datum.Written
import QueryDesk.Proofs.Outcome
import QueryDesk.Proofs.Text.Utf8
import QueryDesk.Snapshot.Store

namespace QueryDesk

namespace Snapshot

theorem encoded_eq_ok {t : Text} {bytes : List UInt8} :
    encoded t = .ok bytes ↔ Utf8.encode t = .ok bytes := by
  unfold encoded
  cases Utf8.encode t <;> simp [Except.mapError]

theorem printed_eq_ok {params : List Datum} {t : Text} : printed params = .ok t ↔
    (Datum.tuple params).isWritable = true ∧ t = (Datum.tuple params).printed := by
  unfold printed
  cases (Datum.tuple params).isWritable with
  | true => exact ⟨fun same => ⟨rfl, (Except.ok.inj same).symm⟩, fun same => congrArg _ same.2.symm⟩
  | false => exact iff_of_false nofun nofun

theorem keyBytes_eq_ok {q : Sql.Query} {source : Option Text} {bytes : List UInt8} :
    keyBytes q source = .ok bytes ↔ (Datum.tuple q.params).isWritable = true ∧
      ∃ sql params origin, Utf8.encode q.sql = .ok sql ∧
        Utf8.encode (Datum.tuple q.params).printed = .ok params ∧
        Utf8.encode (source.getD []) = .ok origin ∧ bytes = sql ++ 0 :: params ++ 0 :: origin := by
  unfold keyBytes
  simp only [bind_eq_ok, encoded_eq_ok, printed_eq_ok, Except.ok.injEq]
  constructor
  · rintro ⟨sql, first, _, ⟨writable, rfl⟩, params, second, origin, third, rfl⟩
    exact ⟨writable, sql, params, origin, first, second, third, rfl⟩
  · rintro ⟨writable, sql, params, origin, first, second, third, rfl⟩
    exact ⟨sql, first, _, ⟨writable, rfl⟩, params, second, origin, third, rfl⟩

theorem zero_notMem_ofChar {c : Char} (solid : isSolid c = true) : 0 ∉ Utf8.ofChar c := by
  have valid : c.toNat < 0x110000 := (Point.scalar c).toNat_lt
  have positive : c.toNat ≠ 0 := by
    intro zero
    have same : c = '\x00' := by rw [← Char.ofNat_toNat c, zero]
    subst same
    exact absurd solid (by decide)
  have byte {n : Nat} (bound : n < 256) (positive : n ≠ 0) : (0 : UInt8) ≠ .ofNat n :=
    fun same => Utf8.ofNat_ne_of_ne (b := 0) bound positive same.symm
  unfold Utf8.ofChar
  simp only
  split
  · exact fun member => byte (by omega) positive (List.mem_singleton.mp member)
  split
  · simp only [List.mem_cons, List.not_mem_nil, or_false, not_or]
    exact ⟨byte (by omega) (by omega), byte (by omega) (by omega)⟩
  split
  · simp only [List.mem_cons, List.not_mem_nil, or_false, not_or]
    exact ⟨byte (by omega) (by omega), byte (by omega) (by omega), byte (by omega) (by omega)⟩
  · simp only [List.mem_cons, List.not_mem_nil, or_false, not_or]
    exact ⟨byte (by omega) (by omega), byte (by omega) (by omega), byte (by omega) (by omega),
      byte (by omega) (by omega)⟩

theorem zero_notMem_of_encode {t : Text} {bytes : List UInt8} (points : Text.Over isSolid t)
    (encoded : Utf8.encode t = .ok bytes) : 0 ∉ bytes := by
  obtain ⟨cs, rfl, rfl⟩ := Utf8.encode_eq_ok_iff.mp encoded
  intro member
  obtain ⟨c, inside, zero⟩ := List.mem_flatMap.mp member
  exact zero_notMem_ofChar (Text.over_ofChars_iff.mp points c inside) zero

theorem keyBytes_cancel {q other : Sql.Query} {source origin : Option Text} {bytes : List UInt8}
    (points : Text.Over isSolid q.sql ∧ Text.Over isSolid other.sql)
    (params : (∀ d ∈ q.params, d.IsParam) ∧ ∀ d ∈ other.params, d.IsParam)
    (first : keyBytes q source = .ok bytes) (second : keyBytes other origin = .ok bytes) :
    q.sql = other.sql ∧ List.Forall₂ Datum.Alike q.params other.params ∧
      source.getD [] = origin.getD [] := by
  obtain ⟨-, sql, printed, named, firstSql, firstParams, firstSource, rfl⟩ := keyBytes_eq_ok.mp first
  obtain ⟨-, _, _, _, lastSql, lastParams, lastSource, same⟩ := keyBytes_eq_ok.mp second
  simp only [List.append_assoc, List.cons_append] at same
  obtain ⟨rfl, rest⟩ := append_cons_cancel
    ⟨zero_notMem_of_encode points.1 firstSql, zero_notMem_of_encode points.2 lastSql⟩ same
  have printable := Datum.over_printed_tuple params.1
  have printable' := Datum.over_printed_tuple params.2
  obtain ⟨rfl, rfl⟩ := append_cons_cancel
    ⟨zero_notMem_of_encode printable firstParams, zero_notMem_of_encode printable' lastParams⟩ rest
  have printed := Utf8.encode_injective firstParams lastParams
  exact ⟨Utf8.encode_injective firstSql lastSql,
    Datum.alike_of_printed_tuple params.1 params.2 printed,
    Utf8.encode_injective firstSource lastSource⟩

theorem exists_key {q : Sql.Query} {source : Option Text} (params : ∀ d ∈ q.params, d.IsParam)
    (writable : (Datum.tuple q.params).isWritable = true) (sql : (Utf8.encode q.sql).isOk = true)
    (origin : (Utf8.encode (source.getD [])).isOk = true) :
    ∃ text, key q source = .ok text := by
  obtain ⟨printed, encoded⟩ := Utf8.encode_of_isScalar (Datum.over_printed_tuple params).isScalar
  obtain ⟨sqlBytes, first⟩ := exists_of_isOk sql
  obtain ⟨sourceBytes, last⟩ := exists_of_isOk origin
  have bytes :=
    keyBytes_eq_ok.mpr ⟨writable, sqlBytes, printed, sourceBytes, first, encoded, last, rfl⟩
  exact ⟨_, map_eq_ok.mpr ⟨_, bytes, rfl⟩⟩

theorem key_of_unwritable {q : Sql.Query} (source : Option Text) {n : Int}
    (member : .int n ∈ q.params) (long : ¬ Whole.Writable n) (sql : (Utf8.encode q.sql).isOk = true) :
    key q source = .error .unwritableNumber := by
  obtain ⟨bytes, first⟩ := exists_of_isOk sql
  have held : (Datum.tuple q.params).Holds n := .tuple member .int
  have unwritable : ¬ (Datum.tuple q.params).isWritable = true :=
    fun writable => long (Datum.isWritable_iff.mp writable n held)
  have unprinted : printed q.params = .error .unwritableNumber := if_neg unwritable
  unfold key keyBytes
  rw [encoded_eq_ok.mpr first, unprinted]
  rfl

end Snapshot

end QueryDesk
