import BoxOffice.Booking
import BoxOffice.Availability
import BoxOffice.Category
import BoxOffice.Error
import BoxOffice.Proofs.Json.Text
import BoxOffice.Proofs.Timestamp
import BoxOffice.Seat
import BoxOffice.Service.Config
import BoxOffice.Stock

/-!
# Reading back what is written

A value is `Lossless` if its JSON form can be kept and stands for it; then it is read back from the
text that is written for it (`Lossless.readBack`). A record is lossless if all its fields are
(`RecordForm.Writes`). So everything that the box office writes as JSON is read back
(`forms_lossless`), as long as its instants can be written as date and time.
-/

namespace BoxOffice

variable {α β ρ : Type} {room : Nat}

/-- What is written for a value is read as the value. -/
def ReadBack [JsonForm α] (a : α) : Prop :=
  (Json.parse? (encode a).render).bind decode = some a

/-- The JSON form of a value can be kept, where so many lists and objects may still be opened, and
stands for the value. -/
structure Lossless (room : Nat) [JsonForm α] (a : α) : Prop where
  fits : (encode a).Fits room
  decoded : decode (encode a) = some a

theorem Lossless.readBack [JsonForm α] {a : α} (h : Lossless (Json.maxFrames + 1) a) :
    ReadBack a := by
  rw [ReadBack, Json.parse?_render h.fits, Option.bind_some, h.decoded]

/-! ### Parts of records -/

theorem lossless_text (s : String) : Lossless room s where
  fits := .text s
  decoded := rfl

theorem intBetween?_ofInt {low high n : Int} (above : low ≤ n) (below : n ≤ high) :
    (Json.ofInt n).intBetween? low high = some n := by
  simp [Json.intBetween?, Json.ofInt, Json.int?, above, below]

theorem lossless_int32 (n : Int32) : Lossless room n where
  fits := .number _
  decoded := by
    have above := n.le_toInt
    have below := n.toInt_lt
    show ((Json.ofInt n.toInt).intBetween? _ _).map Int32.ofInt = _
    rw [intBetween?_ofInt (by omega) (by omega), Option.map_some, Int32.ofInt_toInt]

/-- An unsigned number within its bound is read back. -/
theorem map_intBetween?_ofNat {high n : Nat} (below : n ≤ high) (make : Nat → α) :
    ((Json.ofNat n).intBetween? 0 high).map (fun k => make k.toNat) = some (make n) := by
  have read := intBetween?_ofInt (Int.natCast_nonneg n) (Int.ofNat_le.2 below)
  exact congrArg (Option.map fun k => make k.toNat) read

theorem lossless_uint16 (n : UInt16) : Lossless room n where
  fits := .number _
  decoded := by
    have read := map_intBetween?_ofNat (Nat.le_of_lt_succ n.toNat_lt) UInt16.ofNat
    rw [UInt16.ofNat_toNat] at read
    exact read

theorem lossless_uint32 (n : UInt32) : Lossless room n where
  fits := .number _
  decoded := by
    have read := map_intBetween?_ofNat (Nat.le_of_lt_succ n.toNat_lt) UInt32.ofNat
    rw [UInt32.ofNat_toNat] at read
    exact read

theorem lossless_uint64 (n : UInt64) : Lossless room n where
  fits := .number _
  decoded := by
    have read := map_intBetween?_ofNat (Nat.le_of_lt_succ n.toNat_lt) UInt64.ofNat
    rw [UInt64.ofNat_toNat] at read
    exact read

/-- A value that is written as another one. -/
theorem Lossless.wrapped [JsonForm α] [JsonForm β] {a : α} (h : Lossless room a) (wrap : α → β)
    (encoded : encode (wrap a) = encode a)
    (decodes : ∀ j, (decode j : Option β) = (decode j : Option α).map wrap) :
    Lossless room (wrap a) where
  fits := encoded ▸ h.fits
  decoded := by rw [encoded, decodes, h.decoded, Option.map_some]

/-- A value that need not be there, and is not written as `null` if it is. -/
theorem Lossless.option [JsonForm α] {a : Option α}
    (h : ∀ b ∈ a, Lossless room b ∧ encode b ≠ .null) : Lossless room a := by
  cases a with
  | none => exact ⟨.null, rfl⟩
  | some b =>
    obtain ⟨⟨fits, decoded⟩, filled⟩ := h b rfl
    refine ⟨fits, ?_⟩
    have read {j : Json} (filled : j ≠ .null) :
        (decode j : Option (Option α)) = (decode j).map some := by
      cases j with
      | null => exact absurd rfl filled
      | _ => rfl
    show (decode (encode b) : Option (Option α)) = _
    rw [read filled, decoded, Option.map_some]

theorem lossless_instant {t : Instant} (dated : t.Dated) : Lossless room t where
  fits := .text _
  decoded := by
    simp only [encode, decode, Json.text?, Option.bind_some, Timestamp.parse?, Timestamp.render,
      String.toList_ofList, Timestamp.ofChars?_chars dated]

/-! ### Identifiers -/

namespace Uuid

/-- Groups of digits are found again between the hyphens. -/
theorem ofGroups?_append {a b c d e : List Char} (first : a.length = 8) (second : b.length = 4)
    (third : c.length = 4) (fourth : d.length = 4) (last : e.length = 12) :
    ofGroups? (a ++ '-' :: b ++ '-' :: c ++ '-' :: d ++ '-' :: e) =
      ofDigits? (a ++ b ++ c ++ d ++ e) := by
  rw [ofGroups?, if_pos]
  · simp (disch := omega) [List.drop_append, List.drop_of_length_le, first, second, third, fourth]
  · simp [first, second, third, fourth, last]

theorem ofDigits?_hexChar (u : Uuid) :
    ofDigits? (u.digits.toList.map fun d => Text.hexChar d.val) = some u := by
  have digits (ds : List (Fin 16)) :
      (ds.map fun d => Text.hexChar d.val).mapM digit? = some ds := by
    have digit (d : Fin 16) : digit? (Text.hexChar d.val) = some d := by
      simp [digit?, Text.hexValue?_hexChar d.isLt]
    induction ds with
    | nil => rfl
    | cons d ds ih =>
      rw [List.map_cons, List.mapM_cons, digit, ih]
      rfl
  obtain ⟨⟨⟨ds⟩, size⟩⟩ := u
  rw [ofDigits?, digits]
  simpa using size

/-- **An identifier is read back.** -/
theorem ofChars?_chars (u : Uuid) : ofChars? u.chars = some u := by
  have all := ofDigits?_hexChar u
  unfold chars
  generalize written : (u.digits.toList.map fun d => Text.hexChar d.val) = ds at *
  have length : ds.length = 32 := by simp [← written]
  have group {first size : Nat} (fits : first + size ≤ 32) :
      ((ds.drop first).take size).length = size := by
    rw [List.length_take, List.length_drop, length]
    omega
  have joined : ds.take 8 ++ (ds.drop 8).take 4 ++ (ds.drop 12).take 4 ++ (ds.drop 16).take 4 ++
      ds.drop 20 = ds := by
    have next (i j : Nat) : ds.take i ++ (ds.drop i).take j = ds.take (i + j) := List.take_add.symm
    rw [next, next, next]
    exact List.take_append_drop 20 ds
  have front : (ds.take 8).length = 8 := group (show 0 + 8 ≤ 32 by decide)
  have back : (ds.drop 20).length = 12 := by rw [List.length_drop, length]
  have read := ofGroups?_append front (group (show 8 + 4 ≤ 32 by decide))
    (group (show 12 + 4 ≤ 32 by decide)) (group (show 16 + 4 ≤ 32 by decide)) back
  rw [joined, all] at read
  rw [← read]
  -- written in groups, the text has neither braces nor a prefix
  simp [ofChars?, length]

end Uuid

theorem lossless_uuid (u : Uuid) : Lossless room u where
  fits := .text _
  decoded := by
    simp only [encode, decode, Json.text?, Option.bind_some, Uuid.parse?, Uuid.render,
      String.toList_ofList, Uuid.ofChars?_chars]

theorem EventId.lossless (id : EventId) : Lossless room id :=
  (lossless_int32 id.value).wrapped EventId.mk rfl fun _ => rfl

theorem CategoryId.lossless (id : CategoryId) : Lossless room id :=
  (lossless_int32 id.value).wrapped CategoryId.mk rfl fun _ => rfl

theorem SeatId.lossless (id : SeatId) : Lossless room id :=
  (lossless_int32 id.value).wrapped SeatId.mk rfl fun _ => rfl

theorem UserId.lossless (id : UserId) : Lossless room id :=
  (lossless_int32 id.value).wrapped UserId.mk rfl fun _ => rfl

theorem HoldId.lossless (id : HoldId) : Lossless room id :=
  (lossless_uuid id.value).wrapped HoldId.mk rfl fun _ => rfl

theorem BookingId.lossless (id : BookingId) : Lossless room id :=
  (lossless_uuid id.value).wrapped BookingId.mk rfl fun _ => rfl

theorem Money.lossless (m : Money) : Lossless room m :=
  (lossless_uint64 m.cents).wrapped Money.mk rfl fun _ => rfl

/-! ### Records -/

namespace RecordForm

/-- The fields of a record are written and read back. -/
structure Writes (form : RecordForm ρ α) (room : Nat) (r : ρ) (a : α) : Prop where
  length : (form.write r).length = form.names.length
  fits : ∀ v ∈ form.write r, v.Fits room
  read : ∀ rest, form.read ((form.write r).map some ++ rest) = some (a, rest)

theorem writes_start (make : α) (r : ρ) : (start make : RecordForm ρ α).Writes room r make where
  length := rfl
  fits := nofun
  read _ := rfl

theorem Writes.field [JsonForm β] {form : RecordForm ρ (β → α)} {r : ρ} {make : β → α}
    (h : form.Writes room r make) {name : String} {get : ρ → β} (value : Lossless room (get r)) :
    (form.field name get).Writes room r (make (get r)) where
  length := by simp [RecordForm.field, h.length]
  fits v mem := by
    rcases List.mem_append.1 mem with before | last
    · exact h.fits v before
    · exact List.mem_singleton.1 last ▸ value.fits
  read rest := by simp [RecordForm.field, h.read, fieldValue?, value.decoded]

/-- **A record is read back if its fields are**, and their names are different. -/
theorem Writes.lossless {form : RecordForm ρ ρ} {r : ρ} (h : form.Writes room r r)
    (distinct : form.names.Nodup) : @Lossless ρ (room + 1) form.toForm r := by
  refine @Lossless.mk ρ (room + 1) form.toForm r (.object fun m mem => ?_) ?_
  · exact h.fits m.2 (List.of_mem_zip mem).2
  · have read := h.read []
    rw [List.append_nil] at read
    dsimp only [encode, decode]
    simp only [Json.fields?_zip h.length distinct, Option.bind_eq_bind, Option.bind_some, read]

end RecordForm

/-! ### What the box office writes -/

theorem Labelled.lossless [Labelled α] [LawfulLabelled α] (a : α) :
    @Lossless α room Labelled.toForm a :=
  @Lossless.mk α room Labelled.toForm a (.text _) (LawfulLabelled.ofLabel?_label a)

theorem Error.lossless (e : Error) : Lossless (room + 1) e where
  fits := .object fun m mem => List.mem_singleton.1 mem ▸ .text _
  decoded := by
    show (Labelled.ofLabel? (Labelled.label e.kind)).map (fun kind => Error.mk kind e.message) = _
    rw [LawfulLabelled.ofLabel?_label, Option.map_some]

section Records

open RecordForm

theorem Category.lossless (c : Category) : Lossless (room + 1) c :=
  writes_start Category.mk c
    |>.field (CategoryId.lossless c.id)
    |>.field (EventId.lossless c.event)
    |>.field (lossless_text c.name)
    |>.field (Labelled.lossless c.layout)
    |>.field (Labelled.lossless c.tracking)
    |>.field (Money.lossless c.price)
    |>.field (lossless_uint32 c.total)
    |>.field (lossless_uint32 c.available)
    |>.lossless (by decide)

theorem Seat.lossless (s : Seat) (dated : ∀ t ∈ s.reservedUntil, t.Dated) :
    Lossless (room + 1) s :=
  writes_start Seat.mk s
    |>.field (SeatId.lossless s.id)
    |>.field (CategoryId.lossless s.category)
    |>.field (lossless_text s.label)
    |>.field (Labelled.lossless s.status)
    |>.field (.option fun t last => ⟨lossless_instant (dated t last), nofun⟩)
    |>.field (.option fun id _ => ⟨HoldId.lossless id, nofun⟩)
    |>.lossless (by decide)

theorem StockHold.lossless (h : StockHold) (dated : h.expiresAt.Dated) : Lossless (room + 1) h :=
  writes_start StockHold.mk h
    |>.field (HoldId.lossless h.hold)
    |>.field (CategoryId.lossless h.category)
    |>.field (Labelled.lossless h.state)
    |>.field (lossless_instant dated)
    |>.lossless (by decide)

namespace HeldUnit

theorem SeatFields.lossless (f : SeatFields) : Lossless (room + 1) f :=
  writes_start SeatFields.mk f
    |>.field (SeatId.lossless f.ticket)
    |>.field (lossless_text f.label)
    |>.lossless (by decide)

/-- No identifier of a seat is too great for double precision. -/
theorem isSound_seatId (id : SeatId) : (encode id).isSound := by
  have above := id.value.le_toInt
  have below := id.value.toInt_lt
  have bound : 2147483648 < Numeral.doubleBound := by decide +kernel
  show decide (id.value.toInt.natAbs < Numeral.doubleBound) = true
  rw [decide_eq_true_eq]
  omega

/-- **A unit is read back**: its kind is told apart from the fields of a seat. -/
theorem lossless (unit : HeldUnit) : Lossless (room + 1) unit := by
  cases unit with
  | stock => exact ⟨.object fun m mem => List.mem_singleton.1 mem ▸ .text _, rfl⟩
  | seat id label =>
    refine ⟨.object fun m mem => ?_, ?_⟩
    · simp only [List.mem_cons, List.not_mem_nil, or_false] at mem
      rcases mem with rfl | rfl | rfl
      · exact .text _
      · exact (SeatId.lossless id).fits
      · exact .text _
    · have sound : (encode (HeldUnit.seat id label)).isSound = true := by
        show (Json.isSound (.text "seat") && (Json.isSound (encode id) && true)) = true
        rw [isSound_seatId]
        rfl
      have fields := (SeatFields.lossless ⟨id, label⟩ : Lossless (room + 1) _).decoded
      show (if !(encode (HeldUnit.seat id label)).isSound then none
        else (decode (encode (SeatFields.mk id label))).map fun (f : SeatFields) =>
          HeldUnit.seat f.ticket f.label) = _
      rw [sound, fields]
      rfl

end HeldUnit

theorem Token.lossless (t : Token) (dated : t.expiresAt.Dated) : Lossless (room + 2) t :=
  writes_start Token.mk t
    |>.field (HoldId.lossless t.hold)
    |>.field (EventId.lossless t.event)
    |>.field (CategoryId.lossless t.category)
    |>.field (HeldUnit.lossless t.unit)
    |>.field (lossless_instant dated)
    |>.lossless (by decide)

theorem ReserveRequest.lossless (r : ReserveRequest) : Lossless (room + 1) r :=
  writes_start ReserveRequest.mk r
    |>.field (HoldId.lossless r.hold)
    |>.field (EventId.lossless r.event)
    |>.field (CategoryId.lossless r.category)
    |>.field (.option fun label _ => ⟨lossless_text label, nofun⟩)
    |>.lossless (by decide)

theorem BookingRequest.lossless (r : BookingRequest) : Lossless (room + 1) r :=
  writes_start BookingRequest.mk r
    |>.field (HoldId.lossless r.attempt)
    |>.field (EventId.lossless r.event)
    |>.field (CategoryId.lossless r.category)
    |>.field (.option fun label _ => ⟨lossless_text label, nofun⟩)
    |>.field (UserId.lossless r.user)
    |>.lossless (by decide)

theorem Availability.lossless (a : Availability) : Lossless (room + 1) a :=
  writes_start Availability.mk a
    |>.field (lossless_uint32 a.total)
    |>.field (lossless_uint32 a.available)
    |>.field (lossless_uint32 a.reserved)
    |>.field (lossless_uint32 a.sold)
    |>.lossless (by decide)

theorem SweepReport.lossless (r : SweepReport) : Lossless (room + 1) r :=
  writes_start SweepReport.mk r
    |>.field (lossless_uint64 r.seats)
    |>.field (lossless_uint64 r.stock)
    |>.lossless (by decide)

theorem BookingDraft.lossless (d : BookingDraft) (dated : d.holdExpiresAt.Dated) :
    Lossless (room + 1) d :=
  writes_start BookingDraft.mk d
    |>.field (HoldId.lossless d.attempt)
    |>.field (EventId.lossless d.event)
    |>.field (CategoryId.lossless d.category)
    |>.field (.option fun id _ => ⟨SeatId.lossless id, nofun⟩)
    |>.field (.option fun label _ => ⟨lossless_text label, nofun⟩)
    |>.field (UserId.lossless d.user)
    |>.field (lossless_instant dated)
    |>.lossless (by decide)

theorem Booking.lossless (b : Booking) (expires : b.holdExpiresAt.Dated)
    (created : b.createdAt.Dated) (updated : b.updatedAt.Dated) : Lossless (room + 1) b :=
  writes_start Booking.mk b
    |>.field (BookingId.lossless b.id)
    |>.field (HoldId.lossless b.attempt)
    |>.field (EventId.lossless b.event)
    |>.field (CategoryId.lossless b.category)
    |>.field (.option fun id _ => ⟨SeatId.lossless id, nofun⟩)
    |>.field (.option fun label _ => ⟨lossless_text label, nofun⟩)
    |>.field (UserId.lossless b.user)
    |>.field (Labelled.lossless b.status)
    |>.field (lossless_instant expires)
    |>.field (lossless_instant created)
    |>.field (lossless_instant updated)
    |>.lossless (by decide)

theorem DatabaseConfig.lossless (c : DatabaseConfig) : Lossless (room + 1) c :=
  writes_start DatabaseConfig.mk c
    |>.field (lossless_text c.url)
    |>.field (lossless_uint32 c.maxConnections)
    |>.field (lossless_uint32 c.minConnections)
    |>.field (lossless_uint64 c.connectTimeout)
    |>.lossless (by decide)

theorem ReservationConfig.lossless (c : ReservationConfig) : Lossless (room + 1) c :=
  writes_start ReservationConfig.mk c
    |>.field (lossless_uint64 c.holdSeconds)
    |>.field (lossless_uint64 c.reclaimIntervalSeconds)
    |>.field (lossless_uint64 c.compensationMaxRetries)
    |>.lossless (by decide)

theorem ServerConfig.lossless (c : ServerConfig) : Lossless (room + 1) c :=
  writes_start ServerConfig.mk c
    |>.field (lossless_text c.metricsHost)
    |>.field (lossless_uint16 c.metricsPort)
    |>.field (lossless_uint64 c.shutdownTimeout)
    |>.lossless (by decide)

theorem Config.lossless (c : Config) : Lossless (room + 2) c :=
  writes_start Config.mk c
    |>.field (DatabaseConfig.lossless c.inventory)
    |>.field (DatabaseConfig.lossless c.booking)
    |>.field (ReservationConfig.lossless c.reservation)
    |>.field (ServerConfig.lossless c.server)
    |>.lossless (by decide)

end Records

/-- **Everything that is written as JSON is read back**, if its instants lie in the years 0 to 9999
and in no leap second. -/
theorem forms_lossless :
    (∀ c : Category, ReadBack c) ∧
    (∀ s : Seat, (∀ t ∈ s.reservedUntil, t.Dated) → ReadBack s) ∧
    (∀ h : StockHold, h.expiresAt.Dated → ReadBack h) ∧
    (∀ unit : HeldUnit, ReadBack unit) ∧
    (∀ t : Token, t.expiresAt.Dated → ReadBack t) ∧
    (∀ r : ReserveRequest, ReadBack r) ∧
    (∀ r : BookingRequest, ReadBack r) ∧
    (∀ a : Availability, ReadBack a) ∧
    (∀ r : SweepReport, ReadBack r) ∧
    (∀ b : Booking, b.holdExpiresAt.Dated → b.createdAt.Dated → b.updatedAt.Dated → ReadBack b) ∧
    (∀ d : BookingDraft, d.holdExpiresAt.Dated → ReadBack d) ∧
    (∀ e : Error, ReadBack e) ∧
    ∀ c : Config, ReadBack c := by
  refine ⟨?category, ?seat, ?stock, ?unit, ?token, ?reserve, ?wish, ?availability, ?report,
    ?booking, ?draft, ?error, ?config⟩
  case category => exact fun c => (Category.lossless c).readBack
  case seat => exact fun s dated => (Seat.lossless s dated).readBack
  case stock => exact fun h dated => (StockHold.lossless h dated).readBack
  case unit => exact fun unit => (HeldUnit.lossless unit).readBack
  case token => exact fun t dated => (Token.lossless t dated).readBack
  case reserve => exact fun r => (ReserveRequest.lossless r).readBack
  case wish => exact fun r => (BookingRequest.lossless r).readBack
  case availability => exact fun a => (Availability.lossless a).readBack
  case report => exact fun r => (SweepReport.lossless r).readBack
  case booking =>
    exact fun b expires created updated => (Booking.lossless b expires created updated).readBack
  case draft => exact fun d dated => (BookingDraft.lossless d dated).readBack
  case error => exact fun e => (Error.lossless e).readBack
  case config => exact fun c => (Config.lossless c).readBack

/-- The first and the last instant that have a date are read back in every record, and so is a label
with marks and a line break. -/
theorem records_readBack_at_bounds :
    let first : Instant := .ofParts (-62167219200) 0
    let last : Instant := .ofParts 253402300799 999999999
    let label := "\"é\\\n\x7f"
    let hold : HoldId := ⟨.random 7⟩
    ReadBack (Seat.mk ⟨1⟩ ⟨-2⟩ label .reserved (some last) (some hold)) ∧
    ReadBack (StockHold.mk hold ⟨2⟩ .held first) ∧
    ReadBack (Token.mk hold ⟨1⟩ ⟨2⟩ (.seat ⟨-3⟩ label) last) ∧
    ReadBack (Booking.mk ⟨.random 8⟩ hold ⟨1⟩ ⟨2⟩ none (some label) ⟨4⟩ .pending last first first) ∧
    ReadBack (BookingDraft.mk hold ⟨1⟩ ⟨2⟩ (some ⟨3⟩) none ⟨4⟩ last) := by
  have first : Instant.Dated (.ofParts (-62167219200) 0) := Instant.dated_iff.2 (by decide)
  have last : Instant.Dated (.ofParts 253402300799 999999999) := Instant.dated_iff.2 (by decide)
  obtain ⟨-, seat, stock, -, token, -, -, -, -, booking, draft, -⟩ := forms_lossless
  exact ⟨seat _ fun t at_last => Option.some.inj at_last ▸ last, stock _ first, token _ last,
    booking _ last first first, draft _ last⟩

end BoxOffice
