import ScriptMetadata.Proofs.DraftWriting
import ScriptMetadata.Proofs.Loading

/-!
Loading what was emitted, which is what the one pass over the module writes. Below 2^32 bytes this
gives the module back; from there on the size in the header has wrapped, so it cannot be the size of
the file, and nothing is loaded.
-/

set_option autoImplicit false

namespace ScriptMetadata.Container

variable (options : LoadOptions)

theorem decode_encode (image : Image) : Header.decode image.encode = .ok image.header :=
  image.header.decode_encode_append image.body

theorem totalSize_encode (image : Image) :
    image.header.totalSize = UInt32.ofNat image.encode.size := by
  rw [Image.encode, ByteArray.size_append, Header.size_encode]
  rfl

theorem bodyChecksum_encode (image : Image) :
    bodyChecksum image.encode = image.header.checksum := by
  have front : image.header.encode.data.toList.length = headerSize :=
    image.header.size_encode
  rw [bodyChecksum, Image.encode, ByteArray.toList_data_append, ← front, List.drop_left]
  rfl

theorem load_encode {image : Image} (bounds : image.bounds ≠ [])
    (small : image.encode.size < UInt32.size) {module : Module}
    (resolved : image.resolve = .ok module) : load options image.encode = .ok module := by
  have fits := image.fits_of_size bounds small
  rw [load_eq_ok_iff_of_decode (decode_encode image),
    validate_eq_ok_iff (size_of_decode (decode_encode image)),
    Image.imageAt_encode fits, Image.finish_eq fits]
  have size : image.header.totalSize.toNat = image.encode.size := by
    rw [totalSize_encode, UInt32.toNat_ofNat_of_lt' small]
  exact ⟨⟨rfl, rfl, size, fun _ => (bodyChecksum_encode image).symm⟩, Nat.le_refl _, resolved⟩

theorem load_encode_of_size_le {image : Image} (large : UInt32.size ≤ image.encode.size) :
    load options image.encode =
      .error (.sizeMismatch (UInt32.ofNat image.encode.size) image.encode.size) := by
  have wrapped : image.header.totalSize.toNat ≠ image.encode.size := by
    have bounded := image.header.totalSize.toNat_lt
    exact Nat.ne_of_lt (Nat.lt_of_lt_of_le bounded large)
  have magic : image.header.hasMagic = true := beq_self_eq_true Container.magic
  have version : image.header.hasFormatVersion = true := beq_self_eq_true formatVersion
  rw [load, read_eq_of_decode (decode_encode image), Header.validate, magic, version,
    if_neg (by decide), if_neg (by decide), if_pos wrapped, totalSize_encode]
  rfl

theorem load_emit {module : Module} (small : (emit module).size < UInt32.size) :
    load options (emit module) = .ok module :=
  load_encode options (Image.bounds_ofModule_ne_nil module) small (Image.resolve_ofModule
    (Image.fits_of_size _ (Image.bounds_ofModule_ne_nil module) small))

/-- Emitted bytes are those of the one pass. They load as the emitted module or, past the sizes that
a header can state, not at all. -/
theorem emit_round_trip (module : Module) :
    (write module).bytes = emit module ∧
      load options (emit module) =
        if (emit module).size < 2 ^ 32 then .ok module
        else .error (.sizeMismatch (UInt32.ofNat (emit module).size) (emit module).size) := by
  refine ⟨write_bytes module, ?_⟩
  split
  · rename_i small
    exact load_emit options small
  · rename_i large
    exact load_encode_of_size_le options (Nat.not_lt.1 large)

end ScriptMetadata.Container
