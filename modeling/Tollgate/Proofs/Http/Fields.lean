import Tollgate.Admission
import Tollgate.Forward
import Tollgate.Proofs.Text.Digits

/-!
# Header fields by name

What is said under one name, before and after a message is changed. A field is a line in a list, but
what a receiver makes of the list is a matter of the values of each name (`Headers.getAll`), and of
their order. So every change of a message is told by what it makes of the values of any name, and
with that the whole message that is sent on (`Request.getAll_outboundHeaders`).

What the gateway writes into a field is a text of its own, and not every text can stand in one. The
user that admission finds came out of a field and can stand in one again
(`Admission.headerValue?_of_user`); the identifiers and times that the gateway makes are written with
characters that can (`headerValue?_correlationText`, `headerValue?_millisText`).

## Main results

* `Headers.getAll_set`: one name is rewritten and no other.
* `Request.getAll_outboundHeaders`: what a service is told under any name.
* `Admission.headerValue?_of_user`: the user that was found can be told to services.
-/

namespace Tollgate

/-! ### Values -/

namespace Bytes

/-- The rest of an array of bytes is put behind what was read before. -/
theorem toList_loop (bs : ByteArray) (i : Nat) (before : Bytes) :
    ByteArray.toList.loop bs i before = before.reverse ++ bs.data.toList.drop i := by
  fun_induction ByteArray.toList.loop bs i before with
  | case1 i before hlt ih =>
      have hi : i < bs.data.toList.length := by simpa using hlt
      have hread : bs.get! i = bs.data.toList[i] := by
        rw [Array.getElem_toList]
        exact getElem!_pos bs.data i (by simpa using hlt)
      rw [ih, List.drop_eq_getElem_cons hi, hread, List.reverse_cons, List.append_assoc,
        List.singleton_append]
  | case2 i before hge =>
      have hend : bs.data.toList.length ≤ i := by simpa using hge
      rw [List.drop_eq_nil_of_le hend, List.append_nil]

/-- The bytes of a text are those of its characters. -/
theorem ofText_eq_flatMap (s : String) : ofText s = s.toList.flatMap String.utf8EncodeChar := by
  rw [ofText, String.toUTF8, ByteArray.toList, toList_loop, List.reverse_nil, List.nil_append,
    List.drop_zero, ← String.utf8Encode_toList, List.utf8Encode, List.toList_data_toByteArray]

/-- **A text below 128** has one byte for each character. -/
theorem ofText_of_ascii {s : String} (h : ∀ c ∈ s.toList, c.toNat < 128) :
    ofText s = s.toList.map fun c => UInt8.ofNat c.toNat := by
  have hchar : ∀ c ∈ s.toList, String.utf8EncodeChar c = [UInt8.ofNat c.toNat] := by
    intro c hc
    have hlow : c.val.toNat ≤ 0x7f := Nat.le_of_lt_succ (h c hc)
    rw [String.utf8EncodeChar, if_pos hlow]
    rfl
  rw [ofText_eq_flatMap, List.flatMap_def, List.map_congr_left hchar, ← List.flatMap_def,
    List.map_eq_flatMap]

end Bytes

/-- Trimming a list leaves some of its characters. -/
theorem mem_of_mem_trimList {p : Char → Bool} {cs : List Char} {c : Char}
    (h : c ∈ trimList p cs) : c ∈ cs := by
  rw [trimList, List.mem_reverse] at h
  have hfront := (List.dropWhile_sublist p).subset h
  exact (List.dropWhile_sublist p).subset (List.mem_reverse.mp hfront)

/-! ### Fields -/

namespace Headers

/-- Fields that are chosen by their names keep their values. -/
theorem getAll_filter (h : Headers) (p : HeaderName → Bool) (name : HeaderName) :
    getAll (h.filter fun f => p f.1) name = if p name then h.getAll name else [] := by
  rw [getAll, List.filter_filter]
  split
  · next hp =>
      refine congrArg (List.map Prod.snd) (List.filter_congr fun f _ => ?_)
      by_cases hname : f.1 = name
      · simp [hname, hp]
      · simp [hname]
  · next hp =>
      rw [List.map_eq_nil_iff, List.filter_eq_nil_iff]
      intro f _ hf
      simp only [Bool.and_eq_true, decide_eq_true_eq] at hf
      exact hp (hf.1 ▸ hf.2)

/-- Removing a name removes its values, and no others. -/
theorem getAll_remove (h : Headers) (name other : HeaderName) :
    (h.remove name).getAll other = if other = name then [] else h.getAll other := by
  have hfilter := h.getAll_filter (fun n => decide (n ≠ name)) other
  rw [remove, hfilter]
  by_cases hother : other = name <;> simp [hother]

/-- **Setting a name** gives it one value, and leaves the others. -/
theorem getAll_set (h : Headers) (name : HeaderName) (value : Bytes) (other : HeaderName) :
    (h.set name value).getAll other = if other = name then [value] else h.getAll other := by
  have happend : (h.set name value).getAll other
      = (h.remove name).getAll other ++ getAll [(name, value)] other := by
    rw [set, getAll, List.filter_append, List.map_append, ← getAll, ← getAll]
  rw [happend, getAll_remove]
  by_cases hother : other = name
  · simp [getAll, hother]
  · simp [getAll, hother, Ne.symm hother]

/-- Setting a name if there is a value for it leaves the others. -/
theorem getAll_setIf (h : Headers) (name : HeaderName) (value? : Option Bytes)
    (other : HeaderName) :
    (h.setIf name value?).getAll other
      = if other = name then value?.elim (h.getAll name) ([·]) else h.getAll other := by
  rcases value? with _ | value
  · by_cases hother : other = name <;> simp [setIf, hother]
  · rw [setIf, getAll_set, Option.elim_some]

/-- A copy without hop-by-hop fields has the values of every other name. -/
theorem getAll_withoutHopByHop (h : Headers) (name : HeaderName) :
    h.withoutHopByHop.getAll name = if isHopByHop name then [] else h.getAll name := by
  rw [withoutHopByHop, getAll_filter h fun n => !isHopByHop n]
  rcases isHopByHop name with _ | _ <;> rfl

/-- A text that is found is the readable first value of the name. -/
theorem exists_of_text? {h : Headers} {name : HeaderName} {trim : String → String} {s : String}
    (hs : h.text? name trim = some s) :
    ∃ value, h.get? name = some value ∧ value.all isReadableByte = true ∧
      s = trim (Bytes.asciiText value) := by
  rw [text?, Option.filter_eq_some_iff, Option.map_eq_some_iff] at hs
  obtain ⟨⟨raw, hraw, rfl⟩, -⟩ := hs
  obtain ⟨value, hvalue, hreadable⟩ := Option.bind_eq_some_iff.mp hraw
  rw [readableText?] at hreadable
  split at hreadable
  · next hall =>
      cases hreadable
      exact ⟨value, hvalue, hall, rfl⟩
  · cases hreadable

end Headers

/-! ### Texts that can stand in a field -/

/-- The character is one byte in a text, and one that can stand in a field. -/
def IsFieldChar (c : Char) : Prop :=
  c.toNat < 128 ∧ isHeaderByte (UInt8.ofNat c.toNat) = true

instance : DecidablePred IsFieldChar :=
  fun c => inferInstanceAs (Decidable (c.toNat < 128 ∧ isHeaderByte (UInt8.ofNat c.toNat) = true))

/-- A text of such characters can stand in a field. -/
theorem headerValue?_of_chars {s : String} (h : ∀ c ∈ s.toList, IsFieldChar c) :
    headerValue? s = some (Bytes.ofText s) := by
  rw [headerValue?, Bytes.ofText_of_ascii fun c hc => (h c hc).1]
  refine if_pos (List.all_eq_true.mpr fun b hb => ?_)
  obtain ⟨c, hc, rfl⟩ := List.mem_map.mp hb
  exact (h c hc).2

/-- Characters of a text that is given can stand in a field if each of them can. -/
theorem isFieldChar_of_all {cs : List Char} (h : (cs.all fun c => decide (IsFieldChar c)) = true)
    {c : Char} (hc : c ∈ cs) : IsFieldChar c :=
  of_decide_eq_true (List.all_eq_true.mp h c hc)

/-- Digits can stand in a field. -/
theorem isFieldChar_of_isDigit {c : Char} (h : c.isDigit = true) : IsFieldChar c := by
  obtain ⟨hlow, hhigh⟩ := Bool.and_eq_true_iff.mp h
  have hcode : ∀ n < 0x3A, 0x30 ≤ n → IsFieldChar (Char.ofNat n) := by decide
  have hc := hcode c.toNat (Nat.lt_succ_of_le (UInt32.le_iff_toNat_le.mp (of_decide_eq_true hhigh)))
    (UInt32.le_iff_toNat_le.mp (of_decide_eq_true hlow))
  rwa [Char.ofNat_toNat] at hc

/-- **An identifier that the gateway makes** can stand in a field. -/
theorem headerValue?_correlationText (now : Timestamp) :
    headerValue? (correlationText now) = some (Bytes.ofText (correlationText now)) := by
  refine headerValue?_of_chars fun c hc => ?_
  rw [correlationText, String.toList_append, List.mem_append] at hc
  rcases hc with hfront | hmillis
  · exact isFieldChar_of_all (by decide) hfront
  · rcases isDigit_or_dash_of_mem hmillis with hdigit | rfl
    · exact isFieldChar_of_isDigit hdigit
    · decide

/-- **A time in milliseconds** can stand in a field. -/
theorem headerValue?_millisText (d : Duration) :
    headerValue? d.millisText = some (Bytes.ofText d.millisText) := by
  refine headerValue?_of_chars fun c hc => ?_
  simp only [Duration.millisText, Magnitude.twoPlaces, String.toList_append, List.mem_append] at hc
  rcases hc with ((hwhole | hpoint) | hzero) | hplaces
  · exact isFieldChar_of_isDigit (isDigit_of_mem_toString hwhole)
  · exact isFieldChar_of_all (by decide) hpoint
  · split at hzero
    · exact isFieldChar_of_all (by decide) hzero
    · cases hzero
  · exact isFieldChar_of_isDigit (isDigit_of_mem_toString hplaces)

/-- The characters of a readable value have the codes of its bytes. -/
theorem isFieldChar_of_mem_asciiText {value : Bytes} {c : Char}
    (h : c ∈ (Bytes.asciiText value).toList) (hreadable : value.all isReadableByte = true) :
    IsFieldChar c := by
  rw [Bytes.asciiText, String.toList_ofList] at h
  obtain ⟨b, hb, rfl⟩ := List.mem_map.mp h
  have hb' := List.all_eq_true.mp hreadable b hb
  -- below 127 a byte, the code of its character and the character are the same number
  have hall : ∀ n < 256, isReadableByte (UInt8.ofNat n) = true → IsFieldChar (Char.ofNat n) := by
    decide +kernel
  exact hall b.toNat b.toNat_lt (by rwa [UInt8.ofNat_toNat])

/-- **A user that admission has found** can stand in a field again. -/
theorem Admission.headerValue?_of_user {a : Admission} {headers : Headers} {peer : Option IpAddress}
    {user : String} (h : (a.callerOf headers peer).user = some user) :
    headerValue? user = some (Bytes.ofText user) := by
  obtain ⟨name, -, htext⟩ := Option.bind_eq_some_iff.mp h
  obtain ⟨value, -, hreadable, rfl⟩ := Headers.exists_of_text? htext
  refine headerValue?_of_chars fun c hc => ?_
  rw [trimBlank, String.toList_ofList] at hc
  exact isFieldChar_of_mem_asciiText (mem_of_mem_trimList hc) hreadable

/-! ### Requests that are sent on -/

namespace Request

/-- The user that the gateway vouches for: that of the caller, if it can stand in a field. -/
def vouched? (r : Request) : Option Bytes :=
  (r.caller.bind Caller.user).bind headerValue?

/-- **What a service is told** under any name. -/
theorem getAll_outboundHeaders (r : Request) (correlation : Bytes) (name : HeaderName) :
    (r.outboundHeaders correlation).getAll name
      = if name = .contentLength ∧ carriesBody r.method = false then []
        else if name = .userId then r.vouched?.elim (r.headers.getAll .userId) ([·])
        else if name = .correlationId then [correlation]
        else if isHopByHop name = true ∨ name = .host then []
        else r.headers.getAll name := by
  have hpassed : ∀ n, (r.headers.withoutHopByHop.remove .host).getAll n
      = if isHopByHop n = true ∨ n = .host then [] else r.headers.getAll n := by
    intro n
    rw [Headers.getAll_remove, Headers.getAll_withoutHopByHop]
    by_cases hhost : n = .host <;> simp [hhost]
  -- until then the user is what the request says
  have huser : ((r.headers.withoutHopByHop.remove .host).set .correlationId correlation).getAll
      .userId = r.headers.getAll .userId := by
    rw [Headers.getAll_set, hpassed, if_neg (by decide), if_neg (by decide)]
  have hstamped : (((r.headers.withoutHopByHop.remove .host).set .correlationId correlation).setIf
      .userId r.vouched?).getAll name
      = if name = .userId then r.vouched?.elim (r.headers.getAll .userId) ([·])
        else if name = .correlationId then [correlation]
        else if isHopByHop name = true ∨ name = .host then []
        else r.headers.getAll name := by
    rw [Headers.getAll_setIf, huser, Headers.getAll_set, hpassed]
  rw [outboundHeaders, ← vouched?]
  split
  · next hcarries => simp only [hcarries, Bool.true_eq_false, and_false, if_false, hstamped]
  · next hcarries =>
      rw [Headers.getAll_remove, hstamped]
      simp only [Bool.not_eq_true] at hcarries
      simp only [hcarries, and_true]

end Request

end Tollgate
