import ChatRelay.Http.Access
import ChatRelay.Proofs.Keys.Table

/-!
# What a request says about its caller

`Request.Presents` says by which header a caller is known, in terms of the headers
alone: the first header for credentials if it begins with the word for keys, and
only otherwise the first header for keys. A header that is looked at must be plain
text. Every request presents one thing (`presents_iff`).

`callerOf_key` and its companions say what becomes of it.
-/

namespace ChatRelay.Http

/-- What a request says about its caller. -/
inductive Credential where
  /-- A header that was looked at is not plain text. -/
  | unreadable
  | nothing
  | key (text : String)
  deriving DecidableEq

/-- A key in a text, unless the text is blank. -/
def Credential.ofText (text : String) : Credential :=
  if Text.trimText text = "" then .nothing else .key (Text.trimText text)

/-- The characters of a header, tabs among them, that are plain text. -/
def IsPlain (value : List UInt8) : Prop :=
  ∀ b ∈ value, b = 9 ∨ 0x20 ≤ b ∧ b < 0x7F

/-- The text of a header that is plain text. -/
def plainText (value : List UInt8) : String :=
  String.ofList (value.map fun b => Char.ofNat b.toNat)

namespace Request

/-- The value of the first header with a name, which is given in small letters. -/
def FirstHeader (r : Request) (name : String) (value : List UInt8) : Prop :=
  ∃ before key after, r.headers = before ++ (key, value) :: after ∧ key.toLower = name ∧
    ∀ header ∈ before, header.1.toLower ≠ name

/-- There is no header with a name. -/
def LacksHeader (r : Request) (name : String) : Prop :=
  ∀ header ∈ r.headers, header.1.toLower ≠ name

/-- The header for credentials is missing, or it holds something else than a key. -/
def LacksBearer (r : Request) : Prop :=
  r.LacksHeader "authorization" ∨
    ∃ value, r.FirstHeader "authorization" value ∧ IsPlain value ∧
      ∀ rest, plainText value ≠ "Bearer " ++ rest

/-- What a request says about its caller. -/
inductive Presents (r : Request) : Credential → Prop where
  | unreadable {value : List UInt8} (hfirst : r.FirstHeader "authorization" value)
      (hplain : ¬ IsPlain value) : r.Presents .unreadable
  | bearer {value : List UInt8} {rest : String} (hfirst : r.FirstHeader "authorization" value)
      (hplain : IsPlain value) (hrest : plainText value = "Bearer " ++ rest) :
      r.Presents (.ofText rest)
  | unreadableKey {value : List UInt8} (hbearer : r.LacksBearer)
      (hfirst : r.FirstHeader "x-api-key" value) (hplain : ¬ IsPlain value) :
      r.Presents .unreadable
  | key {value : List UInt8} (hbearer : r.LacksBearer)
      (hfirst : r.FirstHeader "x-api-key" value) (hplain : IsPlain value) :
      r.Presents (.ofText (plainText value))
  | nothing (hbearer : r.LacksBearer) (hlacks : r.LacksHeader "x-api-key") : r.Presents .nothing

/-! ## Headers -/

theorem header?_eq_some_iff (r : Request) (name : String) (value : List UInt8) :
    r.header? name = some value ↔ r.FirstHeader name value := by
  rw [header?, Option.map_eq_some_iff]
  constructor
  · rintro ⟨⟨key, value⟩, hfind, rfl⟩
    obtain ⟨hkey, before, after, hheaders, hbefore⟩ := List.find?_eq_some_iff_append.1 hfind
    exact ⟨before, key, after, hheaders, by simpa using hkey, fun header hheader => by
      simpa using hbefore header hheader⟩
  · rintro ⟨before, key, after, hheaders, hkey, hbefore⟩
    refine ⟨(key, value), List.find?_eq_some_iff_append.2 ⟨by simpa using hkey, before, after,
      hheaders, fun header hheader => ?_⟩, rfl⟩
    simpa using hbefore header hheader

theorem header?_eq_none_iff (r : Request) (name : String) :
    r.header? name = none ↔ r.LacksHeader name := by
  rw [header?, Option.map_eq_none_iff, List.find?_eq_none]
  simp [LacksHeader]

end Request

theorem all_visible_iff (value : List UInt8) :
    (value.all fun b => b == 9 || (0x20 ≤ b && b < 0x7F)) = true ↔ IsPlain value := by
  simp [IsPlain]

theorem visibleText?_of_isPlain {value : List UInt8} (h : IsPlain value) :
    visibleText? value = some (plainText value) := by
  rw [visibleText?, if_pos ((all_visible_iff value).2 h)]
  rfl

theorem visibleText?_of_not_isPlain {value : List UInt8} (h : ¬ IsPlain value) :
    visibleText? value = none := by
  rw [visibleText?, if_neg fun hall => h ((all_visible_iff value).1 hall)]

theorem stripTextStart?_eq_some_iff {start s rest : String} :
    Text.stripTextStart? start s = some rest ↔ s = start ++ rest := by
  rw [Text.stripTextStart?, Option.map_eq_some_iff]
  constructor
  · rintro ⟨cs, hcs, rfl⟩
    rw [← String.toList_inj, Text.stripStart?_eq_some.1 hcs]
    simp
  · rintro rfl
    exact ⟨rest.toList, Text.stripStart?_eq_some.2 (by simp), by simp⟩

/-! ## The key that is shown -/

/-- What a request says about its caller, as it is found out. -/
def credentialOf : Except AccessFault (Option String) → Credential
  | .error _ => .unreadable
  | .ok none => .nothing
  | .ok (some key) => .key key

theorem credentialOf_keyIn (text : String) : credentialOf (.ok (keyIn text)) = .ofText text := by
  unfold keyIn Credential.ofText
  dsimp only
  split <;> rfl

namespace Request

variable {r : Request} {c : Credential}

/-- The header for keys is looked at when the one for credentials holds no key. -/
theorem LacksBearer.shownKey (h : r.LacksBearer) : shownKey r = keyHeader r := by
  obtain hlacks | ⟨value, hfirst, hplain, hrest⟩ := h
  · rw [Http.shownKey, (r.header?_eq_none_iff _).2 hlacks]
  · have hstrip : Text.stripTextStart? "Bearer " (plainText value) = none :=
      Option.eq_none_iff_forall_ne_some.2 fun rest hstrip =>
        hrest rest (stripTextStart?_eq_some_iff.1 hstrip)
    rw [Http.shownKey, (r.header?_eq_some_iff _ _).2 hfirst]
    dsimp only
    rw [visibleText?_of_isPlain hplain]
    dsimp only
    rw [hstrip]

theorem Presents.credentialOf_shownKey (h : r.Presents c) : credentialOf (shownKey r) = c := by
  cases h with
  | unreadable hfirst hplain =>
    rw [shownKey, (r.header?_eq_some_iff _ _).2 hfirst]
    dsimp only
    rw [visibleText?_of_not_isPlain hplain]
    rfl
  | bearer hfirst hplain hrest =>
    rw [shownKey, (r.header?_eq_some_iff _ _).2 hfirst]
    dsimp only
    rw [visibleText?_of_isPlain hplain]
    dsimp only
    rw [stripTextStart?_eq_some_iff.2 hrest]
    exact credentialOf_keyIn _
  | unreadableKey hbearer hfirst hplain =>
    rw [hbearer.shownKey, keyHeader, (r.header?_eq_some_iff _ _).2 hfirst]
    dsimp only
    rw [visibleText?_of_not_isPlain hplain]
    rfl
  | key hbearer hfirst hplain =>
    rw [hbearer.shownKey, keyHeader, (r.header?_eq_some_iff _ _).2 hfirst]
    dsimp only
    rw [visibleText?_of_isPlain hplain]
    exact credentialOf_keyIn _
  | nothing hbearer hlacks =>
    rw [hbearer.shownKey, keyHeader, (r.header?_eq_none_iff _).2 hlacks]
    rfl

/-- When the header for credentials holds no key, the one for keys tells what a request says. -/
theorem LacksBearer.presents (h : r.LacksBearer) : ∃ c, r.Presents c := by
  cases hheader : r.header? "x-api-key" with
  | none => exact ⟨_, .nothing h ((r.header?_eq_none_iff _).1 hheader)⟩
  | some value =>
    have hfirst := (r.header?_eq_some_iff _ _).1 hheader
    by_cases hplain : IsPlain value
    · exact ⟨_, .key h hfirst hplain⟩
    · exact ⟨_, .unreadableKey h hfirst hplain⟩

theorem exists_presents (r : Request) : ∃ c, r.Presents c := by
  cases hheader : r.header? "authorization" with
  | none => exact LacksBearer.presents (.inl ((r.header?_eq_none_iff _).1 hheader))
  | some value =>
    have hfirst := (r.header?_eq_some_iff _ _).1 hheader
    by_cases hplain : IsPlain value
    · by_cases hrest : ∃ rest, plainText value = "Bearer " ++ rest
      · obtain ⟨rest, hrest⟩ := hrest
        exact ⟨_, .bearer hfirst hplain hrest⟩
      · exact LacksBearer.presents
          (.inr ⟨value, hfirst, hplain, fun rest heq => hrest ⟨rest, heq⟩⟩)
    · exact ⟨_, .unreadable hfirst hplain⟩

/-- A request says one thing about its caller, and it is this that is found out. -/
theorem presents_iff (r : Request) (c : Credential) :
    r.Presents c ↔ credentialOf (shownKey r) = c := by
  refine ⟨Presents.credentialOf_shownKey, ?_⟩
  rintro rfl
  obtain ⟨c, hc⟩ := r.exists_presents
  exact hc.credentialOf_shownKey.symm ▸ hc

/-! ## The caller -/

variable {keys : KeyTable} {now : Time.Instant}

theorem Presents.callerOf_unreadable (h : r.Presents .unreadable) (keys : KeyTable)
    (now : Time.Instant) : ∃ f, callerOf r keys now = (.error f, keys) := by
  have hshown := h.credentialOf_shownKey
  rw [callerOf]
  generalize shownKey r = shown at hshown ⊢
  rcases shown with f | _ | key
  · exact ⟨f, rfl⟩
  · cases hshown
  · cases hshown

theorem Presents.callerOf_nothing (h : r.Presents .nothing) (keys : KeyTable)
    (now : Time.Instant) : callerOf r keys now = (.ok none, keys) := by
  have hshown := h.credentialOf_shownKey
  rw [callerOf]
  generalize shownKey r = shown at hshown ⊢
  rcases shown with f | _ | key
  · cases hshown
  · rfl
  · cases hshown

theorem Presents.callerOf_key {key : String} (h : r.Presents (.key key)) (keys : KeyTable)
    (now : Time.Instant) :
    callerOf r keys now =
      match keys.authenticate key now with
      | (some owner, keys) => (.ok (some owner), keys)
      | (none, keys) => (.error .unknownKey, keys) := by
  have hshown := h.credentialOf_shownKey
  rw [callerOf]
  generalize shownKey r = shown at hshown ⊢
  rcases shown with f | _ | key'
  · cases hshown
  · cases hshown
  · cases hshown
    rfl

/-- A key that nobody holds is refused. -/
theorem Presents.callerOf_unknown {key : String} (h : r.Presents (.key key))
    (hunknown : ∀ row ∈ keys.rows, row.digest ≠ Sha256.digest key) :
    callerOf r keys now = (.error .unknownKey, keys) := by
  rw [h.callerOf_key, KeyTable.authenticate_of_forall_ne hunknown]

/-- A key tells its holder, and it is noted in its row that it was used. -/
theorem Presents.callerOf_held {key : String} (h : r.Presents (.key key)) (hkeys : keys.Distinct)
    {row : KeyRow} (hrow : row ∈ keys.rows) (hdigest : row.digest = Sha256.digest key) :
    callerOf r keys now =
      (.ok (some row.owner),
        { rows := keys.rows.map fun row' => if row' = row then row.usedAt now else row' }) := by
  rw [h.callerOf_key, KeyTable.authenticate_of_mem hkeys hrow hdigest]

end Request

end ChatRelay.Http
