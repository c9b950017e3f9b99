import CallbackWeave.Preprocessor.Macro

/-!
The names that are defined before a source is read. They tell of the machine and of the dialect.
-/

namespace CallbackWeave.Preprocessor

namespace Predefined

/-- What names stand for, each with all names that stand for it. Those with arguments begin with their
parameters. -/
def table : List (String × List String) :=
  [("1", ["_LP64", "_STDC_PREDEF_H", "__ATOMIC_CONSUME", "__DBL_HAS_DENORM__",
    "__DBL_HAS_INFINITY__", "__DBL_HAS_QUIET_NAN__", "__DBL_IS_IEC_60559__",
    "__DECIMAL_BID_FORMAT__", "__ELF__", "__FLT_HAS_DENORM__", "__FLT_HAS_INFINITY__",
    "__FLT_HAS_QUIET_NAN__", "__FLT_IS_IEC_60559__", "__FXSR__", "__GCC_ASM_FLAG_OUTPUTS__",
    "__GCC_ATOMIC_TEST_AND_SET_TRUEVAL", "__GCC_HAVE_DWARF2_CFI_ASM",
    "__GCC_HAVE_SYNC_COMPARE_AND_SWAP_1", "__GCC_HAVE_SYNC_COMPARE_AND_SWAP_2",
    "__GCC_HAVE_SYNC_COMPARE_AND_SWAP_4", "__GCC_HAVE_SYNC_COMPARE_AND_SWAP_8",
    "__HAVE_SPECULATION_SAFE_VALUE", "__LDBL_HAS_DENORM__", "__LDBL_HAS_INFINITY__",
    "__LDBL_HAS_QUIET_NAN__", "__LDBL_IS_IEC_60559__", "__LP64__", "__MMX_WITH_SSE__", "__MMX__",
    "__PRAGMA_REDEFINE_EXTNAME", "__SEG_FS", "__SEG_GS", "__SSE2_MATH__",
    "__SSE2__", "__SSE_MATH__", "__SSE__", "__STDC_HOSTED__", "__STDC_IEC_559_COMPLEX__",
    "__STDC_IEC_559__", "__STDC__", "__amd64", "__amd64__", "__code_model_small__", "__gnu_linux__",
    "__k8", "__k8__", "__linux", "__linux__", "__unix", "__unix__", "__x86_64", "__x86_64__"]),
    ("2", ["__ATOMIC_ACQUIRE", "__DEC_EVAL_METHOD__", "__FLT_RADIX__",
    "__GCC_ATOMIC_BOOL_LOCK_FREE", "__GCC_ATOMIC_CHAR16_T_LOCK_FREE",
    "__GCC_ATOMIC_CHAR32_T_LOCK_FREE", "__GCC_ATOMIC_CHAR_LOCK_FREE", "__GCC_ATOMIC_INT_LOCK_FREE",
    "__GCC_ATOMIC_LLONG_LOCK_FREE", "__GCC_ATOMIC_LONG_LOCK_FREE", "__GCC_ATOMIC_POINTER_LOCK_FREE",
    "__GCC_ATOMIC_SHORT_LOCK_FREE", "__GCC_ATOMIC_WCHAR_T_LOCK_FREE", "__GCC_IEC_559",
    "__GCC_IEC_559_COMPLEX", "__PIC__", "__PIE__", "__SIZEOF_SHORT__", "__pic__", "__pie__"]),
    ("64", ["__GCC_CONSTRUCTIVE_SIZE", "__GCC_DESTRUCTIVE_SIZE", "__INTMAX_WIDTH__",
    "__INTPTR_WIDTH__", "__INT_FAST16_WIDTH__", "__INT_FAST32_WIDTH__", "__INT_FAST64_WIDTH__",
    "__INT_LEAST64_WIDTH__", "__LDBL_MANT_DIG__", "__LONG_LONG_WIDTH__", "__LONG_WIDTH__",
    "__PTRDIFF_WIDTH__", "__SIZE_WIDTH__"]), ("8", ["__CHAR_BIT__", "__INT_FAST8_WIDTH__",
    "__INT_LEAST8_WIDTH__", "__SCHAR_WIDTH__", "__SIZEOF_DOUBLE__", "__SIZEOF_LONG_LONG__",
    "__SIZEOF_LONG__", "__SIZEOF_POINTER__", "__SIZEOF_PTRDIFF_T__", "__SIZEOF_SIZE_T__"]),
    ("0x7fffffffffffffffL", ["__INT64_MAX__", "__INTMAX_MAX__", "__INTPTR_MAX__",
    "__INT_FAST16_MAX__", "__INT_FAST32_MAX__", "__INT_FAST64_MAX__", "__INT_LEAST64_MAX__",
    "__LONG_MAX__", "__PTRDIFF_MAX__"]), ("0xffffffffffffffffUL", ["__SIZE_MAX__", "__UINT64_MAX__",
    "__UINTMAX_MAX__", "__UINTPTR_MAX__", "__UINT_FAST16_MAX__", "__UINT_FAST32_MAX__",
    "__UINT_FAST64_MAX__", "__UINT_LEAST64_MAX__"]), ("long int", ["__INT64_TYPE__",
    "__INTMAX_TYPE__", "__INTPTR_TYPE__", "__INT_FAST16_TYPE__", "__INT_FAST32_TYPE__",
    "__INT_FAST64_TYPE__", "__INT_LEAST64_TYPE__", "__PTRDIFF_TYPE__"]),
    ("long unsigned int", ["__SIZE_TYPE__", "__UINT64_TYPE__", "__UINTMAX_TYPE__",
    "__UINTPTR_TYPE__", "__UINT_FAST16_TYPE__", "__UINT_FAST32_TYPE__", "__UINT_FAST64_TYPE__",
    "__UINT_LEAST64_TYPE__"]), ("16", ["__BIGGEST_ALIGNMENT__", "__INT_LEAST16_WIDTH__",
    "__SHRT_WIDTH__", "__SIZEOF_FLOAT128__", "__SIZEOF_FLOAT80__", "__SIZEOF_INT128__",
    "__SIZEOF_LONG_DOUBLE__"]), ("0", ["__ATOMIC_RELAXED", "__FINITE_MATH_ONLY__",
    "__FLT_EVAL_METHOD_TS_18661_3__", "__FLT_EVAL_METHOD__", "__GNUC_PATCHLEVEL__"]),
    ("0x7fffffff", ["__INT32_MAX__", "__INT_LEAST32_MAX__", "__INT_MAX__", "__SIG_ATOMIC_MAX__",
    "__WCHAR_MAX__"]), ("32", ["__INT_LEAST32_WIDTH__", "__INT_WIDTH__", "__SIG_ATOMIC_WIDTH__",
    "__WCHAR_WIDTH__", "__WINT_WIDTH__"]), ("4", ["__ATOMIC_ACQ_REL", "__SIZEOF_FLOAT__",
    "__SIZEOF_INT__", "__SIZEOF_WCHAR_T__", "__SIZEOF_WINT_T__"]), ("(c) c", ["__INT16_C",
    "__INT32_C", "__INT8_C", "__UINT16_C", "__UINT8_C"]), ("0x7f", ["__INT8_MAX__",
    "__INT_FAST8_MAX__", "__INT_LEAST8_MAX__", "__SCHAR_MAX__"]), ("3", ["__ATOMIC_RELEASE",
    "__CET__", "__GNUC_MINOR__", "__SSP_STRONG__"]), ("int", ["__INT32_TYPE__",
    "__INT_LEAST32_TYPE__", "__SIG_ATOMIC_TYPE__", "__WCHAR_TYPE__"]),
    ("unsigned int", ["__CHAR32_TYPE__", "__UINT32_TYPE__", "__UINT_LEAST32_TYPE__",
    "__WINT_TYPE__"]), ("0x7fff", ["__INT16_MAX__", "__INT_LEAST16_MAX__", "__SHRT_MAX__"]),
    ("0xff", ["__UINT8_MAX__", "__UINT_FAST8_MAX__", "__UINT_LEAST8_MAX__"]),
    ("0xffffffffU", ["__UINT32_MAX__", "__UINT_LEAST32_MAX__", "__WINT_MAX__"]),
    ("short unsigned int", ["__CHAR16_TYPE__", "__UINT16_TYPE__", "__UINT_LEAST16_TYPE__"]),
    ("signed char", ["__INT8_TYPE__", "__INT_FAST8_TYPE__", "__INT_LEAST8_TYPE__"]),
    ("unsigned char", ["__UINT8_TYPE__", "__UINT_FAST8_TYPE__", "__UINT_LEAST8_TYPE__"]),
    ("", ["__REGISTER_PREFIX__", "__USER_LABEL_PREFIX__"]),
    ("((double)1.79769313486231570814527423731704357e+308L)", ["__DBL_MAX__", "__DBL_NORM_MAX__"]),
    ("0xffff", ["__UINT16_MAX__", "__UINT_LEAST16_MAX__"]),
    ("1.18973149535723176502126385303097021e+4932L", ["__LDBL_MAX__", "__LDBL_NORM_MAX__"]),
    ("201404L", ["__STDC_IEC_60559_BFP__", "__STDC_IEC_60559_COMPLEX__"]),
    ("21", ["__DECIMAL_DIG__", "__LDBL_DECIMAL_DIG__"]),
    ("3.40282346638528859811704183484516925e+38F", ["__FLT_MAX__", "__FLT_NORM_MAX__"]),
    ("__ORDER_LITTLE_ENDIAN__", ["__BYTE_ORDER__", "__FLOAT_WORD_ORDER__"]),
    ("short int", ["__INT16_TYPE__", "__INT_LEAST16_TYPE__"]), ("(c) c ## L", ["__INT64_C",
    "__INTMAX_C"]), ("(c) c ## UL", ["__UINT64_C", "__UINTMAX_C"]), ("\"13.3.0\"", ["__VERSION__"]),
    ("\"UTF-32LE\"", ["__GNUC_WIDE_EXECUTION_CHARSET_NAME"]),
    ("\"UTF-8\"", ["__GNUC_EXECUTION_CHARSET_NAME"]),
    ("((double)2.22044604925031308084726333618164062e-16L)", ["__DBL_EPSILON__"]),
    ("((double)2.22507385850720138309023271733240406e-308L)", ["__DBL_MIN__"]),
    ("((double)4.94065645841246544176568792868221372e-324L)", ["__DBL_DENORM_MIN__"]),
    ("(-1021)", ["__DBL_MIN_EXP__"]), ("(-125)", ["__FLT_MIN_EXP__"]),
    ("(-16381)", ["__LDBL_MIN_EXP__"]), ("(-307)", ["__DBL_MIN_10_EXP__"]),
    ("(-37)", ["__FLT_MIN_10_EXP__"]), ("(-4931)", ["__LDBL_MIN_10_EXP__"]),
    ("(-__SIG_ATOMIC_MAX__ - 1)", ["__SIG_ATOMIC_MIN__"]),
    ("(-__WCHAR_MAX__ - 1)", ["__WCHAR_MIN__"]), ("0U", ["__WINT_MIN__"]),
    ("0x7fffffffffffffffLL", ["__LONG_LONG_MAX__"]),
    ("1.08420217248550443400745280086994171e-19L", ["__LDBL_EPSILON__"]),
    ("1.17549435082228750796873653722224568e-38F", ["__FLT_MIN__"]),
    ("1.19209289550781250000000000000000000e-7F", ["__FLT_EPSILON__"]),
    ("1.40129846432481707092372958328991613e-45F", ["__FLT_DENORM_MIN__"]),
    ("1018", ["__GXX_ABI_VERSION"]), ("1024", ["__DBL_MAX_EXP__"]),
    ("1234", ["__ORDER_LITTLE_ENDIAN__"]), ("128", ["__FLT_MAX_EXP__"]), ("13", ["__GNUC__"]),
    ("131072", ["__ATOMIC_HLE_RELEASE"]), ("15", ["__DBL_DIG__"]), ("16384", ["__LDBL_MAX_EXP__"]),
    ("17", ["__DBL_DECIMAL_DIG__"]), ("18", ["__LDBL_DIG__"]), ("201706L", ["__STDC_ISO_10646__"]),
    ("24", ["__FLT_MANT_DIG__"]),
    ("3.36210314311209350626267781732175260e-4932L", ["__LDBL_MIN__"]),
    ("3.64519953188247460252840593361941982e-4951L", ["__LDBL_DENORM_MIN__"]),
    ("308", ["__DBL_MAX_10_EXP__"]), ("3412", ["__ORDER_PDP_ENDIAN__"]),
    ("38", ["__FLT_MAX_10_EXP__"]), ("4321", ["__ORDER_BIG_ENDIAN__"]),
    ("4932", ["__LDBL_MAX_10_EXP__"]), ("5", ["__ATOMIC_SEQ_CST"]), ("53", ["__DBL_MANT_DIG__"]),
    ("6", ["__FLT_DIG__"]), ("65536", ["__ATOMIC_HLE_ACQUIRE"]), ("9", ["__FLT_DECIMAL_DIG__"]),
    ("(c) c ## U", ["__UINT32_C"])]

/-- A dialect of sources. -/
structure Dialect where
  /-- The number of its standard; none for the first one. -/
  version : Option String
  /-- Whether there is nothing in it but what its standard has. -/
  strict : Bool
  /-- Whether programs are to be made fast. -/
  optimized : Bool
deriving DecidableEq, Repr

/-- The dialect that is used when none is named. -/
def Dialect.usual : Dialect := ⟨some "201710L", false, false⟩

/-- The endings of the names of dialects, with their numbers. -/
def versions : List (String × Option String) :=
  [("89", none), ("90", none), ("9x", some "199901L"), ("99", some "199901L"), ("1x", some "201112L"),
    ("11", some "201112L"), ("17", some "201710L"), ("18", some "201710L"), ("2x", some "202000L")]

/-- The dialect of a name. -/
def Dialect.ofName? (name : String) : Option Dialect :=
  let strict := name.startsWith "c"
  let ending := if strict then name.drop 1 else name.drop 3
  if strict || name.startsWith "gnu" then
    (versions.lookup ending.toString).map fun version => ⟨version, strict, false⟩
  else none

/-- The names that a dialect adds. -/
def Dialect.names (d : Dialect) : List (String × List String) :=
  let utf : List (String × List String) := [("1", ["__STDC_UTF_16__", "__STDC_UTF_32__"])]
  (match d.version with
    | none => [("1", ["__GNUC_GNU_INLINE__"])]
    | some version =>
      [(version, ["__STDC_VERSION__"]), ("1", ["__GNUC_STDC_INLINE__"])]
        ++ if version = "199901L" && d.strict then [] else utf)
    ++ (if d.optimized then [("1", ["__OPTIMIZE__"]), ("3", ["_FORTIFY_SOURCE"])]
      else [("1", ["__NO_INLINE__"])])
    ++ if d.strict then [("1", ["__STRICT_ANSI__"])] else [("1", ["linux", "unix"])]

/-- The definition that a text of the table writes. -/
def definition? (text : String) : Option Definition :=
  let text := if text.startsWith "(c)" then text else " " ++ text
  (Definition.read (Token.ofPiece text.toList)).toOption

/-- The names that are defined in a dialect. -/
def macros (d : Dialect) : List (Octets × Macro) :=
  let defined := (table ++ d.names).flatMap fun (text, names) =>
    match definition? text with
    | some found => names.map fun name => (name.toList, Macro.defined found)
    | none => []
  let builtins := Builtin.names.map fun (name, b) => (name.toList, Macro.builtin b)
  builtins ++ defined

end Predefined

end CallbackWeave.Preprocessor
