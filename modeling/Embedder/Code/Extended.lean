import Embedder.Types

/-!
The instructions on vectors and the atomic ones. They are many and alike, so they are rows of a
table: a number behind the opcode of their family, a name, what follows the number, and types.

* `Extended.vectors`: the family of the opcode `0xFD`, without the constant;
* `Extended.atomics`: the family of the opcode `0xFE`.
-/

namespace Embedder.Extended

/-- What follows an instruction's number: nothing, an access to memory of `2 ^ align` bytes, the
number of one of `count` lanes, both, the lanes of a shuffle, or the zero byte of a fence. -/
inductive Shape where
  | plain
  | memory (align : Nat)
  | lane (count : Nat)
  | memoryLane (align count : Nat)
  | shuffle
  | fence
  deriving DecidableEq

structure Row where
  number : Nat
  name : String
  shape : Shape
  operands : List ValueType
  results : List ValueType
  deriving DecidableEq

private def vectorsA : List Extended.Row := [
  ⟨0, "v128.load", .memory 4, [.i32], [.v128]⟩,
  ⟨1, "v128.load8x8_s", .memory 3, [.i32], [.v128]⟩,
  ⟨2, "v128.load8x8_u", .memory 3, [.i32], [.v128]⟩,
  ⟨3, "v128.load16x4_s", .memory 3, [.i32], [.v128]⟩,
  ⟨4, "v128.load16x4_u", .memory 3, [.i32], [.v128]⟩,
  ⟨5, "v128.load32x2_s", .memory 3, [.i32], [.v128]⟩,
  ⟨6, "v128.load32x2_u", .memory 3, [.i32], [.v128]⟩,
  ⟨7, "v128.load8_splat", .memory 0, [.i32], [.v128]⟩,
  ⟨8, "v128.load16_splat", .memory 1, [.i32], [.v128]⟩,
  ⟨9, "v128.load32_splat", .memory 2, [.i32], [.v128]⟩,
  ⟨10, "v128.load64_splat", .memory 3, [.i32], [.v128]⟩,
  ⟨11, "v128.store", .memory 4, [.i32, .v128], []⟩,
  ⟨13, "i8x16.shuffle", .shuffle, [.v128, .v128], [.v128]⟩,
  ⟨14, "i8x16.swizzle", .plain, [.v128, .v128], [.v128]⟩,
  ⟨15, "i8x16.splat", .plain, [.i32], [.v128]⟩,
  ⟨16, "i16x8.splat", .plain, [.i32], [.v128]⟩,
  ⟨17, "i32x4.splat", .plain, [.i32], [.v128]⟩,
  ⟨18, "i64x2.splat", .plain, [.i64], [.v128]⟩,
  ⟨19, "f32x4.splat", .plain, [.f32], [.v128]⟩,
  ⟨20, "f64x2.splat", .plain, [.f64], [.v128]⟩,
  ⟨21, "i8x16.extract_lane_s", .lane 16, [.v128], [.i32]⟩,
  ⟨22, "i8x16.extract_lane_u", .lane 16, [.v128], [.i32]⟩,
  ⟨23, "i8x16.replace_lane", .lane 16, [.v128, .i32], [.v128]⟩,
  ⟨24, "i16x8.extract_lane_s", .lane 8, [.v128], [.i32]⟩,
  ⟨25, "i16x8.extract_lane_u", .lane 8, [.v128], [.i32]⟩,
  ⟨26, "i16x8.replace_lane", .lane 8, [.v128, .i32], [.v128]⟩,
  ⟨27, "i32x4.extract_lane", .lane 4, [.v128], [.i32]⟩,
  ⟨28, "i32x4.replace_lane", .lane 4, [.v128, .i32], [.v128]⟩,
  ⟨29, "i64x2.extract_lane", .lane 2, [.v128], [.i64]⟩,
  ⟨30, "i64x2.replace_lane", .lane 2, [.v128, .i64], [.v128]⟩,
  ⟨31, "f32x4.extract_lane", .lane 4, [.v128], [.f32]⟩,
  ⟨32, "f32x4.replace_lane", .lane 4, [.v128, .f32], [.v128]⟩,
  ⟨33, "f64x2.extract_lane", .lane 2, [.v128], [.f64]⟩,
  ⟨34, "f64x2.replace_lane", .lane 2, [.v128, .f64], [.v128]⟩,
  ⟨35, "i8x16.eq", .plain, [.v128, .v128], [.v128]⟩,
  ⟨36, "i8x16.ne", .plain, [.v128, .v128], [.v128]⟩,
  ⟨37, "i8x16.lt_s", .plain, [.v128, .v128], [.v128]⟩,
  ⟨38, "i8x16.lt_u", .plain, [.v128, .v128], [.v128]⟩,
  ⟨39, "i8x16.gt_s", .plain, [.v128, .v128], [.v128]⟩,
  ⟨40, "i8x16.gt_u", .plain, [.v128, .v128], [.v128]⟩,
  ⟨41, "i8x16.le_s", .plain, [.v128, .v128], [.v128]⟩,
  ⟨42, "i8x16.le_u", .plain, [.v128, .v128], [.v128]⟩,
  ⟨43, "i8x16.ge_s", .plain, [.v128, .v128], [.v128]⟩,
  ⟨44, "i8x16.ge_u", .plain, [.v128, .v128], [.v128]⟩,
  ⟨45, "i16x8.eq", .plain, [.v128, .v128], [.v128]⟩,
  ⟨46, "i16x8.ne", .plain, [.v128, .v128], [.v128]⟩,
  ⟨47, "i16x8.lt_s", .plain, [.v128, .v128], [.v128]⟩,
  ⟨48, "i16x8.lt_u", .plain, [.v128, .v128], [.v128]⟩,
  ⟨49, "i16x8.gt_s", .plain, [.v128, .v128], [.v128]⟩,
  ⟨50, "i16x8.gt_u", .plain, [.v128, .v128], [.v128]⟩,
  ⟨51, "i16x8.le_s", .plain, [.v128, .v128], [.v128]⟩,
  ⟨52, "i16x8.le_u", .plain, [.v128, .v128], [.v128]⟩,
  ⟨53, "i16x8.ge_s", .plain, [.v128, .v128], [.v128]⟩,
  ⟨54, "i16x8.ge_u", .plain, [.v128, .v128], [.v128]⟩,
  ⟨55, "i32x4.eq", .plain, [.v128, .v128], [.v128]⟩,
  ⟨56, "i32x4.ne", .plain, [.v128, .v128], [.v128]⟩,
  ⟨57, "i32x4.lt_s", .plain, [.v128, .v128], [.v128]⟩,
  ⟨58, "i32x4.lt_u", .plain, [.v128, .v128], [.v128]⟩,
  ⟨59, "i32x4.gt_s", .plain, [.v128, .v128], [.v128]⟩,
  ⟨60, "i32x4.gt_u", .plain, [.v128, .v128], [.v128]⟩,
  ⟨61, "i32x4.le_s", .plain, [.v128, .v128], [.v128]⟩,
  ⟨62, "i32x4.le_u", .plain, [.v128, .v128], [.v128]⟩,
  ⟨63, "i32x4.ge_s", .plain, [.v128, .v128], [.v128]⟩,
  ⟨64, "i32x4.ge_u", .plain, [.v128, .v128], [.v128]⟩,
  ⟨65, "f32x4.eq", .plain, [.v128, .v128], [.v128]⟩,
  ⟨66, "f32x4.ne", .plain, [.v128, .v128], [.v128]⟩,
  ⟨67, "f32x4.lt", .plain, [.v128, .v128], [.v128]⟩,
  ⟨68, "f32x4.gt", .plain, [.v128, .v128], [.v128]⟩,
  ⟨69, "f32x4.le", .plain, [.v128, .v128], [.v128]⟩,
  ⟨70, "f32x4.ge", .plain, [.v128, .v128], [.v128]⟩]

private def vectorsB : List Extended.Row := [
  ⟨71, "f64x2.eq", .plain, [.v128, .v128], [.v128]⟩,
  ⟨72, "f64x2.ne", .plain, [.v128, .v128], [.v128]⟩,
  ⟨73, "f64x2.lt", .plain, [.v128, .v128], [.v128]⟩,
  ⟨74, "f64x2.gt", .plain, [.v128, .v128], [.v128]⟩,
  ⟨75, "f64x2.le", .plain, [.v128, .v128], [.v128]⟩,
  ⟨76, "f64x2.ge", .plain, [.v128, .v128], [.v128]⟩,
  ⟨77, "v128.not", .plain, [.v128], [.v128]⟩,
  ⟨78, "v128.and", .plain, [.v128, .v128], [.v128]⟩,
  ⟨79, "v128.andnot", .plain, [.v128, .v128], [.v128]⟩,
  ⟨80, "v128.or", .plain, [.v128, .v128], [.v128]⟩,
  ⟨81, "v128.xor", .plain, [.v128, .v128], [.v128]⟩,
  ⟨82, "v128.bitselect", .plain, [.v128, .v128, .v128], [.v128]⟩,
  ⟨83, "v128.any_true", .plain, [.v128], [.i32]⟩,
  ⟨84, "v128.load8_lane", .memoryLane 0 16, [.i32, .v128], [.v128]⟩,
  ⟨85, "v128.load16_lane", .memoryLane 1 8, [.i32, .v128], [.v128]⟩,
  ⟨86, "v128.load32_lane", .memoryLane 2 4, [.i32, .v128], [.v128]⟩,
  ⟨87, "v128.load64_lane", .memoryLane 3 2, [.i32, .v128], [.v128]⟩,
  ⟨88, "v128.store8_lane", .memoryLane 0 16, [.i32, .v128], []⟩,
  ⟨89, "v128.store16_lane", .memoryLane 1 8, [.i32, .v128], []⟩,
  ⟨90, "v128.store32_lane", .memoryLane 2 4, [.i32, .v128], []⟩,
  ⟨91, "v128.store64_lane", .memoryLane 3 2, [.i32, .v128], []⟩,
  ⟨92, "v128.load32_zero", .memory 2, [.i32], [.v128]⟩,
  ⟨93, "v128.load64_zero", .memory 3, [.i32], [.v128]⟩,
  ⟨94, "f32x4.demote_f64x2_zero", .plain, [.v128], [.v128]⟩,
  ⟨95, "f64x2.promote_low_f32x4", .plain, [.v128], [.v128]⟩,
  ⟨96, "i8x16.abs", .plain, [.v128], [.v128]⟩,
  ⟨97, "i8x16.neg", .plain, [.v128], [.v128]⟩,
  ⟨98, "i8x16.popcnt", .plain, [.v128], [.v128]⟩,
  ⟨99, "i8x16.all_true", .plain, [.v128], [.i32]⟩,
  ⟨100, "i8x16.bitmask", .plain, [.v128], [.i32]⟩,
  ⟨101, "i8x16.narrow_i16x8_s", .plain, [.v128, .v128], [.v128]⟩,
  ⟨102, "i8x16.narrow_i16x8_u", .plain, [.v128, .v128], [.v128]⟩,
  ⟨103, "f32x4.ceil", .plain, [.v128], [.v128]⟩,
  ⟨104, "f32x4.floor", .plain, [.v128], [.v128]⟩,
  ⟨105, "f32x4.trunc", .plain, [.v128], [.v128]⟩,
  ⟨106, "f32x4.nearest", .plain, [.v128], [.v128]⟩,
  ⟨107, "i8x16.shl", .plain, [.v128, .i32], [.v128]⟩,
  ⟨108, "i8x16.shr_s", .plain, [.v128, .i32], [.v128]⟩,
  ⟨109, "i8x16.shr_u", .plain, [.v128, .i32], [.v128]⟩,
  ⟨110, "i8x16.add", .plain, [.v128, .v128], [.v128]⟩,
  ⟨111, "i8x16.add_sat_s", .plain, [.v128, .v128], [.v128]⟩,
  ⟨112, "i8x16.add_sat_u", .plain, [.v128, .v128], [.v128]⟩,
  ⟨113, "i8x16.sub", .plain, [.v128, .v128], [.v128]⟩,
  ⟨114, "i8x16.sub_sat_s", .plain, [.v128, .v128], [.v128]⟩,
  ⟨115, "i8x16.sub_sat_u", .plain, [.v128, .v128], [.v128]⟩,
  ⟨116, "f64x2.ceil", .plain, [.v128], [.v128]⟩,
  ⟨117, "f64x2.floor", .plain, [.v128], [.v128]⟩,
  ⟨118, "i8x16.min_s", .plain, [.v128, .v128], [.v128]⟩,
  ⟨119, "i8x16.min_u", .plain, [.v128, .v128], [.v128]⟩,
  ⟨120, "i8x16.max_s", .plain, [.v128, .v128], [.v128]⟩,
  ⟨121, "i8x16.max_u", .plain, [.v128, .v128], [.v128]⟩,
  ⟨122, "f64x2.trunc", .plain, [.v128], [.v128]⟩,
  ⟨123, "i8x16.avgr_u", .plain, [.v128, .v128], [.v128]⟩,
  ⟨124, "i16x8.extadd_pairwise_i8x16_s", .plain, [.v128], [.v128]⟩,
  ⟨125, "i16x8.extadd_pairwise_i8x16_u", .plain, [.v128], [.v128]⟩,
  ⟨126, "i32x4.extadd_pairwise_i16x8_s", .plain, [.v128], [.v128]⟩,
  ⟨127, "i32x4.extadd_pairwise_i16x8_u", .plain, [.v128], [.v128]⟩,
  ⟨128, "i16x8.abs", .plain, [.v128], [.v128]⟩,
  ⟨129, "i16x8.neg", .plain, [.v128], [.v128]⟩,
  ⟨130, "i16x8.q15mulr_sat_s", .plain, [.v128, .v128], [.v128]⟩,
  ⟨131, "i16x8.all_true", .plain, [.v128], [.i32]⟩,
  ⟨132, "i16x8.bitmask", .plain, [.v128], [.i32]⟩,
  ⟨133, "i16x8.narrow_i32x4_s", .plain, [.v128, .v128], [.v128]⟩,
  ⟨134, "i16x8.narrow_i32x4_u", .plain, [.v128, .v128], [.v128]⟩,
  ⟨135, "i16x8.extend_low_i8x16_s", .plain, [.v128], [.v128]⟩,
  ⟨136, "i16x8.extend_high_i8x16_s", .plain, [.v128], [.v128]⟩,
  ⟨137, "i16x8.extend_low_i8x16_u", .plain, [.v128], [.v128]⟩,
  ⟨138, "i16x8.extend_high_i8x16_u", .plain, [.v128], [.v128]⟩,
  ⟨139, "i16x8.shl", .plain, [.v128, .i32], [.v128]⟩,
  ⟨140, "i16x8.shr_s", .plain, [.v128, .i32], [.v128]⟩]

private def vectorsC : List Extended.Row := [
  ⟨141, "i16x8.shr_u", .plain, [.v128, .i32], [.v128]⟩,
  ⟨142, "i16x8.add", .plain, [.v128, .v128], [.v128]⟩,
  ⟨143, "i16x8.add_sat_s", .plain, [.v128, .v128], [.v128]⟩,
  ⟨144, "i16x8.add_sat_u", .plain, [.v128, .v128], [.v128]⟩,
  ⟨145, "i16x8.sub", .plain, [.v128, .v128], [.v128]⟩,
  ⟨146, "i16x8.sub_sat_s", .plain, [.v128, .v128], [.v128]⟩,
  ⟨147, "i16x8.sub_sat_u", .plain, [.v128, .v128], [.v128]⟩,
  ⟨148, "f64x2.nearest", .plain, [.v128], [.v128]⟩,
  ⟨149, "i16x8.mul", .plain, [.v128, .v128], [.v128]⟩,
  ⟨150, "i16x8.min_s", .plain, [.v128, .v128], [.v128]⟩,
  ⟨151, "i16x8.min_u", .plain, [.v128, .v128], [.v128]⟩,
  ⟨152, "i16x8.max_s", .plain, [.v128, .v128], [.v128]⟩,
  ⟨153, "i16x8.max_u", .plain, [.v128, .v128], [.v128]⟩,
  ⟨155, "i16x8.avgr_u", .plain, [.v128, .v128], [.v128]⟩,
  ⟨156, "i16x8.extmul_low_i8x16_s", .plain, [.v128, .v128], [.v128]⟩,
  ⟨157, "i16x8.extmul_high_i8x16_s", .plain, [.v128, .v128], [.v128]⟩,
  ⟨158, "i16x8.extmul_low_i8x16_u", .plain, [.v128, .v128], [.v128]⟩,
  ⟨159, "i16x8.extmul_high_i8x16_u", .plain, [.v128, .v128], [.v128]⟩,
  ⟨160, "i32x4.abs", .plain, [.v128], [.v128]⟩,
  ⟨161, "i32x4.neg", .plain, [.v128], [.v128]⟩,
  ⟨163, "i32x4.all_true", .plain, [.v128], [.i32]⟩,
  ⟨164, "i32x4.bitmask", .plain, [.v128], [.i32]⟩,
  ⟨167, "i32x4.extend_low_i16x8_s", .plain, [.v128], [.v128]⟩,
  ⟨168, "i32x4.extend_high_i16x8_s", .plain, [.v128], [.v128]⟩,
  ⟨169, "i32x4.extend_low_i16x8_u", .plain, [.v128], [.v128]⟩,
  ⟨170, "i32x4.extend_high_i16x8_u", .plain, [.v128], [.v128]⟩,
  ⟨171, "i32x4.shl", .plain, [.v128, .i32], [.v128]⟩,
  ⟨172, "i32x4.shr_s", .plain, [.v128, .i32], [.v128]⟩,
  ⟨173, "i32x4.shr_u", .plain, [.v128, .i32], [.v128]⟩,
  ⟨174, "i32x4.add", .plain, [.v128, .v128], [.v128]⟩,
  ⟨177, "i32x4.sub", .plain, [.v128, .v128], [.v128]⟩,
  ⟨181, "i32x4.mul", .plain, [.v128, .v128], [.v128]⟩,
  ⟨182, "i32x4.min_s", .plain, [.v128, .v128], [.v128]⟩,
  ⟨183, "i32x4.min_u", .plain, [.v128, .v128], [.v128]⟩,
  ⟨184, "i32x4.max_s", .plain, [.v128, .v128], [.v128]⟩,
  ⟨185, "i32x4.max_u", .plain, [.v128, .v128], [.v128]⟩,
  ⟨186, "i32x4.dot_i16x8_s", .plain, [.v128, .v128], [.v128]⟩,
  ⟨188, "i32x4.extmul_low_i16x8_s", .plain, [.v128, .v128], [.v128]⟩,
  ⟨189, "i32x4.extmul_high_i16x8_s", .plain, [.v128, .v128], [.v128]⟩,
  ⟨190, "i32x4.extmul_low_i16x8_u", .plain, [.v128, .v128], [.v128]⟩,
  ⟨191, "i32x4.extmul_high_i16x8_u", .plain, [.v128, .v128], [.v128]⟩,
  ⟨192, "i64x2.abs", .plain, [.v128], [.v128]⟩,
  ⟨193, "i64x2.neg", .plain, [.v128], [.v128]⟩,
  ⟨195, "i64x2.all_true", .plain, [.v128], [.i32]⟩,
  ⟨196, "i64x2.bitmask", .plain, [.v128], [.i32]⟩,
  ⟨199, "i64x2.extend_low_i32x4_s", .plain, [.v128], [.v128]⟩,
  ⟨200, "i64x2.extend_high_i32x4_s", .plain, [.v128], [.v128]⟩,
  ⟨201, "i64x2.extend_low_i32x4_u", .plain, [.v128], [.v128]⟩,
  ⟨202, "i64x2.extend_high_i32x4_u", .plain, [.v128], [.v128]⟩,
  ⟨203, "i64x2.shl", .plain, [.v128, .i32], [.v128]⟩,
  ⟨204, "i64x2.shr_s", .plain, [.v128, .i32], [.v128]⟩,
  ⟨205, "i64x2.shr_u", .plain, [.v128, .i32], [.v128]⟩,
  ⟨206, "i64x2.add", .plain, [.v128, .v128], [.v128]⟩,
  ⟨209, "i64x2.sub", .plain, [.v128, .v128], [.v128]⟩,
  ⟨213, "i64x2.mul", .plain, [.v128, .v128], [.v128]⟩,
  ⟨214, "i64x2.eq", .plain, [.v128, .v128], [.v128]⟩,
  ⟨215, "i64x2.ne", .plain, [.v128, .v128], [.v128]⟩,
  ⟨216, "i64x2.lt_s", .plain, [.v128, .v128], [.v128]⟩,
  ⟨217, "i64x2.gt_s", .plain, [.v128, .v128], [.v128]⟩,
  ⟨218, "i64x2.le_s", .plain, [.v128, .v128], [.v128]⟩,
  ⟨219, "i64x2.ge_s", .plain, [.v128, .v128], [.v128]⟩,
  ⟨220, "i64x2.extmul_low_i32x4_s", .plain, [.v128, .v128], [.v128]⟩,
  ⟨221, "i64x2.extmul_high_i32x4_s", .plain, [.v128, .v128], [.v128]⟩,
  ⟨222, "i64x2.extmul_low_i32x4_u", .plain, [.v128, .v128], [.v128]⟩,
  ⟨223, "i64x2.extmul_high_i32x4_u", .plain, [.v128, .v128], [.v128]⟩,
  ⟨224, "f32x4.abs", .plain, [.v128], [.v128]⟩,
  ⟨225, "f32x4.neg", .plain, [.v128], [.v128]⟩,
  ⟨227, "f32x4.sqrt", .plain, [.v128], [.v128]⟩,
  ⟨228, "f32x4.add", .plain, [.v128, .v128], [.v128]⟩,
  ⟨229, "f32x4.sub", .plain, [.v128, .v128], [.v128]⟩]

private def vectorsD : List Extended.Row := [
  ⟨230, "f32x4.mul", .plain, [.v128, .v128], [.v128]⟩,
  ⟨231, "f32x4.div", .plain, [.v128, .v128], [.v128]⟩,
  ⟨232, "f32x4.min", .plain, [.v128, .v128], [.v128]⟩,
  ⟨233, "f32x4.max", .plain, [.v128, .v128], [.v128]⟩,
  ⟨234, "f32x4.pmin", .plain, [.v128, .v128], [.v128]⟩,
  ⟨235, "f32x4.pmax", .plain, [.v128, .v128], [.v128]⟩,
  ⟨236, "f64x2.abs", .plain, [.v128], [.v128]⟩,
  ⟨237, "f64x2.neg", .plain, [.v128], [.v128]⟩,
  ⟨239, "f64x2.sqrt", .plain, [.v128], [.v128]⟩,
  ⟨240, "f64x2.add", .plain, [.v128, .v128], [.v128]⟩,
  ⟨241, "f64x2.sub", .plain, [.v128, .v128], [.v128]⟩,
  ⟨242, "f64x2.mul", .plain, [.v128, .v128], [.v128]⟩,
  ⟨243, "f64x2.div", .plain, [.v128, .v128], [.v128]⟩,
  ⟨244, "f64x2.min", .plain, [.v128, .v128], [.v128]⟩,
  ⟨245, "f64x2.max", .plain, [.v128, .v128], [.v128]⟩,
  ⟨246, "f64x2.pmin", .plain, [.v128, .v128], [.v128]⟩,
  ⟨247, "f64x2.pmax", .plain, [.v128, .v128], [.v128]⟩,
  ⟨248, "i32x4.trunc_sat_f32x4_s", .plain, [.v128], [.v128]⟩,
  ⟨249, "i32x4.trunc_sat_f32x4_u", .plain, [.v128], [.v128]⟩,
  ⟨250, "f32x4.convert_i32x4_s", .plain, [.v128], [.v128]⟩,
  ⟨251, "f32x4.convert_i32x4_u", .plain, [.v128], [.v128]⟩,
  ⟨252, "i32x4.trunc_sat_f64x2_s_zero", .plain, [.v128], [.v128]⟩,
  ⟨253, "i32x4.trunc_sat_f64x2_u_zero", .plain, [.v128], [.v128]⟩,
  ⟨254, "f64x2.convert_low_i32x4_s", .plain, [.v128], [.v128]⟩,
  ⟨255, "f64x2.convert_low_i32x4_u", .plain, [.v128], [.v128]⟩,
  ⟨256, "i8x16.relaxed_swizzle", .plain, [.v128, .v128], [.v128]⟩,
  ⟨257, "i32x4.relaxed_trunc_f32x4_s", .plain, [.v128], [.v128]⟩,
  ⟨258, "i32x4.relaxed_trunc_f32x4_u", .plain, [.v128], [.v128]⟩,
  ⟨259, "i32x4.relaxed_trunc_f64x2_s_zero", .plain, [.v128], [.v128]⟩,
  ⟨260, "i32x4.relaxed_trunc_f64x2_u_zero", .plain, [.v128], [.v128]⟩,
  ⟨261, "f32x4.relaxed_madd", .plain, [.v128, .v128, .v128], [.v128]⟩,
  ⟨262, "f32x4.relaxed_nmadd", .plain, [.v128, .v128, .v128], [.v128]⟩,
  ⟨263, "f64x2.relaxed_madd", .plain, [.v128, .v128, .v128], [.v128]⟩,
  ⟨264, "f64x2.relaxed_nmadd", .plain, [.v128, .v128, .v128], [.v128]⟩,
  ⟨265, "i8x16.relaxed_laneselect", .plain, [.v128, .v128, .v128], [.v128]⟩,
  ⟨266, "i16x8.relaxed_laneselect", .plain, [.v128, .v128, .v128], [.v128]⟩,
  ⟨267, "i32x4.relaxed_laneselect", .plain, [.v128, .v128, .v128], [.v128]⟩,
  ⟨268, "i64x2.relaxed_laneselect", .plain, [.v128, .v128, .v128], [.v128]⟩,
  ⟨269, "f32x4.relaxed_min", .plain, [.v128, .v128], [.v128]⟩,
  ⟨270, "f32x4.relaxed_max", .plain, [.v128, .v128], [.v128]⟩,
  ⟨271, "f64x2.relaxed_min", .plain, [.v128, .v128], [.v128]⟩,
  ⟨272, "f64x2.relaxed_max", .plain, [.v128, .v128], [.v128]⟩,
  ⟨273, "i16x8.relaxed_q15mulr_s", .plain, [.v128, .v128], [.v128]⟩,
  ⟨274, "i16x8.relaxed_dot_i8x16_i7x16_s", .plain, [.v128, .v128], [.v128]⟩,
  ⟨275, "i32x4.relaxed_dot_i8x16_i7x16_add_s", .plain, [.v128, .v128, .v128], [.v128]⟩]

/-- The instructions of the opcode `0xFD`. -/
def vectors : List Row :=
  vectorsA ++ vectorsB ++ vectorsC ++ vectorsD

private def atomicsA : List Extended.Row := [
  ⟨0, "memory.atomic.notify", .memory 2, [.i32, .i32], [.i32]⟩,
  ⟨1, "memory.atomic.wait32", .memory 2, [.i32, .i32, .i64], [.i32]⟩,
  ⟨2, "memory.atomic.wait64", .memory 3, [.i32, .i64, .i64], [.i32]⟩,
  ⟨3, "atomic.fence", .fence, [], []⟩,
  ⟨16, "i32.atomic.load", .memory 2, [.i32], [.i32]⟩,
  ⟨17, "i64.atomic.load", .memory 3, [.i32], [.i64]⟩,
  ⟨18, "i32.atomic.load8_u", .memory 0, [.i32], [.i32]⟩,
  ⟨19, "i32.atomic.load16_u", .memory 1, [.i32], [.i32]⟩,
  ⟨20, "i64.atomic.load8_u", .memory 0, [.i32], [.i64]⟩,
  ⟨21, "i64.atomic.load16_u", .memory 1, [.i32], [.i64]⟩,
  ⟨22, "i64.atomic.load32_u", .memory 2, [.i32], [.i64]⟩,
  ⟨23, "i32.atomic.store", .memory 2, [.i32, .i32], []⟩,
  ⟨24, "i64.atomic.store", .memory 3, [.i32, .i64], []⟩,
  ⟨25, "i32.atomic.store8", .memory 0, [.i32, .i32], []⟩,
  ⟨26, "i32.atomic.store16", .memory 1, [.i32, .i32], []⟩,
  ⟨27, "i64.atomic.store8", .memory 0, [.i32, .i64], []⟩,
  ⟨28, "i64.atomic.store16", .memory 1, [.i32, .i64], []⟩,
  ⟨29, "i64.atomic.store32", .memory 2, [.i32, .i64], []⟩,
  ⟨30, "i32.atomic.rmw.add", .memory 2, [.i32, .i32], [.i32]⟩,
  ⟨31, "i64.atomic.rmw.add", .memory 3, [.i32, .i64], [.i64]⟩,
  ⟨32, "i32.atomic.rmw8.add_u", .memory 0, [.i32, .i32], [.i32]⟩,
  ⟨33, "i32.atomic.rmw16.add_u", .memory 1, [.i32, .i32], [.i32]⟩,
  ⟨34, "i64.atomic.rmw8.add_u", .memory 0, [.i32, .i64], [.i64]⟩,
  ⟨35, "i64.atomic.rmw16.add_u", .memory 1, [.i32, .i64], [.i64]⟩,
  ⟨36, "i64.atomic.rmw32.add_u", .memory 2, [.i32, .i64], [.i64]⟩,
  ⟨37, "i32.atomic.rmw.sub", .memory 2, [.i32, .i32], [.i32]⟩,
  ⟨38, "i64.atomic.rmw.sub", .memory 3, [.i32, .i64], [.i64]⟩,
  ⟨39, "i32.atomic.rmw8.sub_u", .memory 0, [.i32, .i32], [.i32]⟩,
  ⟨40, "i32.atomic.rmw16.sub_u", .memory 1, [.i32, .i32], [.i32]⟩,
  ⟨41, "i64.atomic.rmw8.sub_u", .memory 0, [.i32, .i64], [.i64]⟩,
  ⟨42, "i64.atomic.rmw16.sub_u", .memory 1, [.i32, .i64], [.i64]⟩,
  ⟨43, "i64.atomic.rmw32.sub_u", .memory 2, [.i32, .i64], [.i64]⟩,
  ⟨44, "i32.atomic.rmw.and", .memory 2, [.i32, .i32], [.i32]⟩,
  ⟨45, "i64.atomic.rmw.and", .memory 3, [.i32, .i64], [.i64]⟩,
  ⟨46, "i32.atomic.rmw8.and_u", .memory 0, [.i32, .i32], [.i32]⟩,
  ⟨47, "i32.atomic.rmw16.and_u", .memory 1, [.i32, .i32], [.i32]⟩,
  ⟨48, "i64.atomic.rmw8.and_u", .memory 0, [.i32, .i64], [.i64]⟩,
  ⟨49, "i64.atomic.rmw16.and_u", .memory 1, [.i32, .i64], [.i64]⟩,
  ⟨50, "i64.atomic.rmw32.and_u", .memory 2, [.i32, .i64], [.i64]⟩,
  ⟨51, "i32.atomic.rmw.or", .memory 2, [.i32, .i32], [.i32]⟩,
  ⟨52, "i64.atomic.rmw.or", .memory 3, [.i32, .i64], [.i64]⟩,
  ⟨53, "i32.atomic.rmw8.or_u", .memory 0, [.i32, .i32], [.i32]⟩,
  ⟨54, "i32.atomic.rmw16.or_u", .memory 1, [.i32, .i32], [.i32]⟩,
  ⟨55, "i64.atomic.rmw8.or_u", .memory 0, [.i32, .i64], [.i64]⟩,
  ⟨56, "i64.atomic.rmw16.or_u", .memory 1, [.i32, .i64], [.i64]⟩,
  ⟨57, "i64.atomic.rmw32.or_u", .memory 2, [.i32, .i64], [.i64]⟩,
  ⟨58, "i32.atomic.rmw.xor", .memory 2, [.i32, .i32], [.i32]⟩,
  ⟨59, "i64.atomic.rmw.xor", .memory 3, [.i32, .i64], [.i64]⟩,
  ⟨60, "i32.atomic.rmw8.xor_u", .memory 0, [.i32, .i32], [.i32]⟩,
  ⟨61, "i32.atomic.rmw16.xor_u", .memory 1, [.i32, .i32], [.i32]⟩,
  ⟨62, "i64.atomic.rmw8.xor_u", .memory 0, [.i32, .i64], [.i64]⟩,
  ⟨63, "i64.atomic.rmw16.xor_u", .memory 1, [.i32, .i64], [.i64]⟩,
  ⟨64, "i64.atomic.rmw32.xor_u", .memory 2, [.i32, .i64], [.i64]⟩,
  ⟨65, "i32.atomic.rmw.xchg", .memory 2, [.i32, .i32], [.i32]⟩,
  ⟨66, "i64.atomic.rmw.xchg", .memory 3, [.i32, .i64], [.i64]⟩,
  ⟨67, "i32.atomic.rmw8.xchg_u", .memory 0, [.i32, .i32], [.i32]⟩,
  ⟨68, "i32.atomic.rmw16.xchg_u", .memory 1, [.i32, .i32], [.i32]⟩,
  ⟨69, "i64.atomic.rmw8.xchg_u", .memory 0, [.i32, .i64], [.i64]⟩,
  ⟨70, "i64.atomic.rmw16.xchg_u", .memory 1, [.i32, .i64], [.i64]⟩,
  ⟨71, "i64.atomic.rmw32.xchg_u", .memory 2, [.i32, .i64], [.i64]⟩,
  ⟨72, "i32.atomic.rmw.cmpxchg", .memory 2, [.i32, .i32, .i32], [.i32]⟩,
  ⟨73, "i64.atomic.rmw.cmpxchg", .memory 3, [.i32, .i64, .i64], [.i64]⟩,
  ⟨74, "i32.atomic.rmw8.cmpxchg_u", .memory 0, [.i32, .i32, .i32], [.i32]⟩,
  ⟨75, "i32.atomic.rmw16.cmpxchg_u", .memory 1, [.i32, .i32, .i32], [.i32]⟩,
  ⟨76, "i64.atomic.rmw8.cmpxchg_u", .memory 0, [.i32, .i64, .i64], [.i64]⟩,
  ⟨77, "i64.atomic.rmw16.cmpxchg_u", .memory 1, [.i32, .i64, .i64], [.i64]⟩,
  ⟨78, "i64.atomic.rmw32.cmpxchg_u", .memory 2, [.i32, .i64, .i64], [.i64]⟩]

/-- The instructions of the opcode `0xFE`. -/
def atomics : List Row :=
  atomicsA

/-- The family of an extended instruction. -/
inductive Family where
  | vector
  | atomic
  deriving DecidableEq

def Family.rows : Family → List Row
  | .vector => vectors
  | .atomic => atomics

def Family.opcode : Family → Nat
  | .vector => 0xFD
  | .atomic => 0xFE

def row? (family : Family) (number : Nat) : Option Row :=
  family.rows.find? fun r => r.number == number

def ofName? (s : String) : Option (Family × Row) :=
  match vectors.find? fun r => r.name == s with
  | some r => some (.vector, r)
  | none => (atomics.find? fun r => r.name == s).map fun r => (.atomic, r)

end Embedder.Extended
