import ThalamicRelay.Shared.Decimal
import ThalamicRelay.Shared.TextLines
import ThalamicRelay.Shared.Utf8
import Mathlib.Data.List.Forall2

set_option autoImplicit false

namespace ThalamicRelay

open Decimal TextLines

def isAsciiHexdigit (byte : UInt8) : Bool :=
  (48 ≤ byte && byte ≤ 57) || (65 ≤ byte && byte ≤ 70) || (97 ≤ byte && byte ≤ 102)

def gpuUuidPrefix : List Char :=
  "GPU-".toList

def gpuUuidGroups : List Nat :=
  [8, 4, 4, 4, 12]

-- part.len() counts bytes; the parts must run out with the groups.
def matchGroups : List Nat → List (List Char) → Bool
  | [], parts => parts.isEmpty
  | _ :: _, [] => false
  | expected :: groups, part :: parts =>
    if (Utf8.bytes part).length ≠ expected || !(Utf8.bytes part).all isAsciiHexdigit then false
    else matchGroups groups parts

def isValidGpuUuid (uuid : List Char) : Bool :=
  match uuid.dropPrefix? gpuUuidPrefix with
  | none => false
  | some body => matchGroups gpuUuidGroups (body.splitOn '-')

structure GpuTarget where
  uuid : List Char
  valid : isValidGpuUuid uuid = true
  deriving DecidableEq

inductive TargetError
  | nvmlInit
  | deviceLookup (message : String)
  | uuidRead (message : String)
  | uuidInvalid (uuid : List Char)
  | uuidRoundTrip (message : String)
  deriving DecidableEq

/-- What the startup asks of NVML. -/
structure Nvml (Device : Type) where
  deviceByIndex : Nat → Except String Device
  uuid : Device → Except String (List Char)
  deviceByUuid : List Char → Except String Device

def GpuTarget.resolve {Device : Type} (nvml : Option (Nvml Device)) :
    Except TargetError GpuTarget :=
  match nvml with
  | none => .error .nvmlInit
  | some nvml => do
    let device ← (nvml.deviceByIndex 0).mapError .deviceLookup
    let uuid ← (nvml.uuid device).mapError .uuidRead
    if valid : isValidGpuUuid uuid = true then
      let _ ← (nvml.deviceByUuid uuid).mapError .uuidRoundTrip
      return { uuid, valid }
    else throw (.uuidInvalid uuid)

def powerLimitCommandArgs (target : GpuTarget) (limitW : UInt32) : List (List Char) :=
  ["-k".toList, "2".toList, "5s".toList, "sudo".toList, "-n".toList, "nvidia-smi".toList,
    "-i".toList, target.uuid, "-pl".toList, Nat.toDigits 10 limitW.toNat]

section Grammar

def isHexDigit (character : Char) : Bool :=
  ('0' ≤ character && character ≤ '9') || ('A' ≤ character && character ≤ 'F') ||
    ('a' ≤ character && character ≤ 'f')

structure HexGroup (size : Nat) (group : List Char) : Prop where
  length : group.length = size
  hex : ∀ character ∈ group, isHexDigit character = true

def GpuUuid (uuid : List Char) : Prop :=
  ∃ low mid high variant node : List Char,
    uuid = "GPU-".toList ++ low ++ "-".toList ++ mid ++ "-".toList ++ high ++ "-".toList ++
      variant ++ "-".toList ++ node ∧
    HexGroup 8 low ∧ HexGroup 4 mid ∧ HexGroup 4 high ∧ HexGroup 4 variant ∧ HexGroup 12 node

def Solid (text : List Char) : Prop :=
  ∀ character ∈ text, character.toNat < 128 ∧ isWhitespace character = false

theorem isHexDigit_iff {character : Char} :
    isHexDigit character = true ↔
      (48 ≤ character.toNat ∧ character.toNat ≤ 57) ∨
      (65 ≤ character.toNat ∧ character.toNat ≤ 70) ∨
      (97 ≤ character.toNat ∧ character.toNat ≤ 102) := by
  simp only [isHexDigit, Bool.or_eq_true, Bool.and_eq_true, decide_eq_true_eq, Char.le_def,
    UInt32.le_iff_toNat_le, or_assoc]
  rfl

theorem isAsciiHexdigit_iff {byte : UInt8} :
    isAsciiHexdigit byte = true ↔
      (48 ≤ byte.toNat ∧ byte.toNat ≤ 57) ∨ (65 ≤ byte.toNat ∧ byte.toNat ≤ 70) ∨
      (97 ≤ byte.toNat ∧ byte.toNat ≤ 102) := by
  simp only [isAsciiHexdigit, Bool.or_eq_true, Bool.and_eq_true, decide_eq_true_eq,
    UInt8.le_iff_toNat_le, or_assoc]
  rfl

theorem hexDigit_byte (character : Char) :
    (character.toNat < 128 ∧ isAsciiHexdigit character.val.toUInt8 = true) ↔
      isHexDigit character = true := by
  have code : character.val.toUInt8.toNat = character.toNat % 256 := UInt32.toNat_toUInt8 _
  rw [isAsciiHexdigit_iff, isHexDigit_iff, code]
  omega

theorem solid_of_all {text : List Char}
    (plain : text.all (fun character => character.toNat < 128 && !isWhitespace character) = true) :
    Solid text := by
  intro character member
  simpa using List.all_eq_true.mp plain character member

theorem hexDigit_ne_dash {character : Char} (hex : isHexDigit character = true) :
    character ≠ '-' := by
  rintro rfl
  exact absurd hex (by decide)

theorem hexDigit_solid {character : Char} (hex : isHexDigit character = true) :
    isWhitespace character = false := by
  have range := isHexDigit_iff.mp hex
  simp only [isWhitespace, Bool.or_eq_false_iff, Bool.and_eq_false_iff, decide_eq_false_iff_not,
    beq_eq_false_iff_ne]
  omega

theorem HexGroup.plain {size : Nat} {group : List Char} (hex : HexGroup size group) :
    '-' ∉ group := by
  intro member
  exact hexDigit_ne_dash (hex.hex '-' member) rfl

theorem length_hex {part : List Char}
    (hex : ∀ character ∈ part, isHexDigit character = true) :
    (Utf8.bytes part).length = part.length := by
  apply Utf8.length_bytes
  intro character member
  exact ((hexDigit_byte character).mpr (hex character member)).1

theorem hexGroup_iff {size : Nat} {part : List Char} :
    ((Utf8.bytes part).length = size ∧ (Utf8.bytes part).all isAsciiHexdigit = true) ↔
      HexGroup size part := by
  have narrow (byte : UInt8) (digit : isAsciiHexdigit byte = true) : byte.toNat < 128 := by
    have range := isAsciiHexdigit_iff.mp digit
    omega
  rw [Utf8.all_bytes narrow]
  simp only [hexDigit_byte]
  constructor
  next =>
    rintro ⟨length, hex⟩
    exact ⟨(length_hex hex).symm.trans length, hex⟩
  next =>
    intro group
    exact ⟨(length_hex group.hex).trans group.length, group.hex⟩

theorem matchGroups_iff {groups : List Nat} {parts : List (List Char)} :
    matchGroups groups parts = true ↔ List.Forall₂ HexGroup groups parts := by
  induction groups generalizing parts with
  | nil => simp [matchGroups]
  | cons expected groups ih =>
    cases parts with
    | nil => simp [matchGroups]
    | cons part parts =>
      rw [List.forall₂_cons, ← hexGroup_iff, ← ih, matchGroups]
      split
      next refused =>
        simp only [ne_eq, Bool.or_eq_true, decide_eq_true_eq, Bool.not_eq_true'] at refused
        rcases refused with length | digits
        next => simp [length]
        next => simp [digits]
      next accepted =>
        simp only [ne_eq, Bool.or_eq_true, decide_eq_true_eq, Bool.not_eq_true', not_or, not_not,
          Bool.not_eq_false] at accepted
        simp [accepted]

theorem groups_hex {groups : List Nat} {parts : List (List Char)}
    (matched : List.Forall₂ HexGroup groups parts) :
    ∀ part ∈ parts, ∀ character ∈ part, isHexDigit character = true := by
  induction matched with
  | nil => simp
  | cons first _ ih =>
    intro part member
    rcases List.mem_cons.mp member with rfl | among
    next => exact first.hex
    next => exact ih part among

theorem gpuUuid_iff {uuid : List Char} :
    GpuUuid uuid ↔
      ∃ parts, uuid = gpuUuidPrefix ++ ['-'].intercalate parts ∧
        List.Forall₂ HexGroup gpuUuidGroups parts := by
  constructor
  next =>
    rintro ⟨low, mid, high, variant, node, rfl, first, second, third, fourth, fifth⟩
    refine ⟨[low, mid, high, variant, node], ?_, ?_⟩
    next => simp [gpuUuidPrefix, List.intercalate_cons_cons]
    next => simp [gpuUuidGroups, first, second, third, fourth, fifth]
  next =>
    rintro ⟨parts, rfl, matched⟩
    simp only [gpuUuidGroups, List.forall₂_cons_left_iff, List.forall₂_nil_left_iff] at matched
    obtain ⟨low, _, first, ⟨mid, _, second, ⟨high, _, third, ⟨variant, _, fourth, ⟨node, _, fifth,
      rfl, rfl⟩, rfl⟩, rfl⟩, rfl⟩, rfl⟩ := matched
    refine ⟨low, mid, high, variant, node, ?_, first, second, third, fourth, fifth⟩
    simp [gpuUuidPrefix, List.intercalate_cons_cons]

theorem isValidGpuUuid_iff {uuid : List Char} : isValidGpuUuid uuid = true ↔ GpuUuid uuid := by
  rw [gpuUuid_iff, isValidGpuUuid]
  constructor
  next =>
    intro accepted
    split at accepted
    next => contradiction
    next body dropped =>
      obtain ⟨lead, rfl, same⟩ := List.dropPrefix?_eq_some_iff.mp dropped
      obtain rfl : lead = gpuUuidPrefix := by simpa using same
      refine ⟨body.splitOn '-', ?_, matchGroups_iff.mp accepted⟩
      rw [List.intercalate_splitOn]
  next =>
    rintro ⟨parts, rfl, matched⟩
    have filled : parts ≠ [] := by
      rintro rfl
      simp [gpuUuidGroups] at matched
    have plain : ∀ part ∈ parts, '-' ∉ part := by
      intro part among member
      exact hexDigit_ne_dash (groups_hex matched part among '-' member) rfl
    have split := List.splitOn_intercalate '-' plain filled
    rw [List.dropPrefix?_append_of_beq _ (BEq.refl gpuUuidPrefix)]
    simpa [split] using matchGroups_iff.mpr matched

theorem GpuUuid.length {uuid : List Char} (canonical : GpuUuid uuid) : uuid.length = 40 := by
  obtain ⟨low, mid, high, variant, node, rfl, first, second, third, fourth, fifth⟩ := canonical
  simp [first.length, second.length, third.length, fourth.length, fifth.length]

theorem GpuUuid.dashes {uuid : List Char} (canonical : GpuUuid uuid) : uuid.count '-' = 5 := by
  obtain ⟨low, mid, high, variant, node, rfl, first, second, third, fourth, fifth⟩ := canonical
  simp [List.count_eq_zero_of_not_mem, first.plain, second.plain, third.plain, fourth.plain,
    fifth.plain]

theorem GpuUuid.character {uuid : List Char} (canonical : GpuUuid uuid) {character : Char}
    (member : character ∈ uuid) :
    character ∈ gpuUuidPrefix ∨ isHexDigit character = true := by
  obtain ⟨parts, rfl, matched⟩ := gpuUuid_iff.mp canonical
  rcases List.mem_append.mp member with lead | body
  next => exact .inl lead
  next =>
    rcases mem_intercalate body with rfl | ⟨part, among, inside⟩
    next => exact .inl (by decide)
    next => exact .inr (groups_hex matched part among character inside)

theorem GpuUuid.solid {uuid : List Char} (canonical : GpuUuid uuid) : Solid uuid := by
  intro character member
  rcases canonical.character member with lead | hex
  next => exact solid_of_all (by decide : gpuUuidPrefix.all _ = true) character lead
  next => exact ⟨((hexDigit_byte character).mpr hex).1, hexDigit_solid hex⟩

theorem GpuUuid.head {uuid : List Char} (canonical : GpuUuid uuid) : uuid.head? = some 'G' := by
  obtain ⟨parts, rfl, _⟩ := gpuUuid_iff.mp canonical
  rfl

end Grammar

theorem GpuTarget.resolve_ok {Device : Type} (nvml : Nvml Device) (target : GpuTarget) :
    GpuTarget.resolve (some nvml) = .ok target ↔
      ∃ device again, nvml.deviceByIndex 0 = .ok device ∧ nvml.uuid device = .ok target.uuid ∧
        nvml.deviceByUuid target.uuid = .ok again := by
  constructor
  next =>
    intro resolved
    simp only [GpuTarget.resolve, Bind.bind, Except.bind] at resolved
    cases found : nvml.deviceByIndex 0 with
    | error message => simp [found, Except.mapError] at resolved
    | ok device =>
      cases read : nvml.uuid device with
      | error message => simp [found, read, Except.mapError] at resolved
      | ok uuid =>
        simp only [found, read, Except.mapError] at resolved
        split at resolved
        next valid =>
          cases again : nvml.deviceByUuid uuid with
          | error message => simp [again] at resolved
          | ok other =>
            simp only [again, pure, Except.pure, Except.ok.injEq] at resolved
            obtain rfl := resolved
            exact ⟨device, other, rfl, read, again⟩
        next => simp [throw, throwThe, MonadExceptOf.throw] at resolved
  next =>
    rintro ⟨device, other, found, read, again⟩
    simp [GpuTarget.resolve, found, read, target.valid, again, Except.mapError, Bind.bind,
      Except.bind, pure, Except.pure]

def OptionLike (argument : List Char) : Prop :=
  argument.head? = some '-'

instance (argument : List Char) : Decidable (OptionLike argument) :=
  inferInstanceAs (Decidable (argument.head? = some '-'))

theorem limit_solid (limitW : UInt32) : Solid (Nat.toDigits 10 limitW.toNat) := by
  intro character member
  have digit := toDigits_digit member
  have range := digit_range digit
  exact ⟨by omega, digit_not_whitespace digit⟩

theorem limit_not_option (limitW : UInt32) : ¬ OptionLike (Nat.toDigits 10 limitW.toNat) := by
  intro option
  have digit := toDigits_digit (List.mem_of_head? option)
  exact absurd digit (by decide)

theorem target_not_option (target : GpuTarget) : ¬ OptionLike target.uuid := by
  intro option
  have lead := (isValidGpuUuid_iff.mp target.valid).head
  simp [OptionLike, lead] at option

theorem powerLimitCommandArgs_options (target : GpuTarget) (limitW : UInt32) :
    (powerLimitCommandArgs target limitW).filter (fun argument => OptionLike argument) =
      ["-k".toList, "-n".toList, "-i".toList, "-pl".toList] := by
  have identity : decide (OptionLike target.uuid) = false := by simp [target_not_option]
  have limit : decide (OptionLike (Nat.toDigits 10 limitW.toNat)) = false := by
    simp [limit_not_option]
  simp only [powerLimitCommandArgs, List.filter_cons, identity, limit]
  rfl

theorem powerLimitCommandArgs_solid (target : GpuTarget) (limitW : UInt32) :
    ∀ argument ∈ powerLimitCommandArgs target limitW, Solid argument := by
  have identity := (isValidGpuUuid_iff.mp target.valid).solid
  have limit := limit_solid limitW
  intro argument member
  simp only [powerLimitCommandArgs, List.mem_cons, List.not_mem_nil, or_false] at member
  rcases member with rfl | rfl | rfl | rfl | rfl | rfl | rfl | rfl | rfl | rfl
  all_goals first | assumption | exact solid_of_all (by decide)

theorem isValidGpuUuid_exact (uuid : List Char) :
    (isValidGpuUuid uuid = true ↔ GpuUuid uuid) ∧
    (isValidGpuUuid uuid = true →
      uuid.length = 40 ∧ uuid.count '-' = 5 ∧ Solid uuid ∧ ¬ OptionLike uuid) ∧
    ∀ (valid : isValidGpuUuid uuid = true) (limitW : UInt32),
      let arguments := powerLimitCommandArgs { uuid, valid } limitW
      arguments.filter (fun argument => OptionLike argument) =
          ["-k".toList, "-n".toList, "-i".toList, "-pl".toList] ∧
        ∀ argument ∈ arguments, Solid argument := by
  refine ⟨isValidGpuUuid_iff, ?_, ?_⟩
  next =>
    intro accepted
    have canonical := isValidGpuUuid_iff.mp accepted
    exact ⟨canonical.length, canonical.dashes, canonical.solid,
      target_not_option { uuid, valid := accepted }⟩
  next =>
    intro valid limitW
    exact ⟨powerLimitCommandArgs_options _ limitW, powerLimitCommandArgs_solid _ limitW⟩

example : isValidGpuUuid "GPU-AbCdEf01-2345-6789-abcd-ef0123456789".toList = true := by decide

-- Four characters of two bytes each.
example : isValidGpuUuid "GPU-éééé-2345-6789-abcd-ef0123456789".toList = false := by decide

end ThalamicRelay
