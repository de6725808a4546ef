import LiveMarkdown.Text.Blank
import Std.Data.HashMap

/-!
The names that the built-in classes have: those of their methods, and those of what is no method.
-/

namespace LiveMarkdown.Script

namespace Member

/-- Classes with the names of their methods and of their other parts, in lines. -/
structure Row where
  classes : List String
  methods : List String
  parts : List String

/-- The names in lines, where blanks separate them. -/
def words (lines : List String) : List String := lines.flatMap Text.words

def rows : List Row := [
  ⟨["object"],
    ["__delattr__ __dir__ __eq__ __format__ __ge__ __getattribute__ __getstate__ __gt__",
      "__hash__ __init__ __init_subclass__ __le__ __lt__ __ne__ __new__ __reduce__",
      "__reduce_ex__ __repr__ __setattr__ __sizeof__ __str__ __subclasshook__"],
    ["__class__ __doc__"]⟩,
  ⟨["type"],
    ["__call__ __delattr__ __dir__ __getattribute__ __init__ __instancecheck__ __new__ __or__",
      "__prepare__ __repr__ __ror__ __setattr__ __sizeof__ __subclasscheck__ __subclasses__ mro"],
    ["__abstractmethods__ __annotations__ __base__ __bases__ __basicsize__ __dict__",
      "__dictoffset__ __doc__ __flags__ __itemsize__ __module__ __mro__ __name__ __qualname__",
      "__text_signature__ __weakrefoffset__"]⟩,
  ⟨["int"],
    ["__abs__ __add__ __and__ __bool__ __ceil__ __divmod__ __eq__ __float__ __floor__",
      "__floordiv__ __format__ __ge__ __getattribute__ __getnewargs__ __gt__ __hash__ __index__",
      "__int__ __invert__ __le__ __lshift__ __lt__ __mod__ __mul__ __ne__ __neg__ __new__",
      "__or__ __pos__ __pow__ __radd__ __rand__ __rdivmod__ __repr__ __rfloordiv__ __rlshift__",
      "__rmod__ __rmul__ __ror__ __round__ __rpow__ __rrshift__ __rshift__ __rsub__",
      "__rtruediv__ __rxor__ __sizeof__ __sub__ __truediv__ __trunc__ __xor__ as_integer_ratio",
      "bit_count bit_length conjugate from_bytes to_bytes"],
    ["__doc__ denominator imag numerator real"]⟩,
  ⟨["bool"],
    ["__and__ __new__ __or__ __rand__ __repr__ __ror__ __rxor__ __xor__"],
    ["__doc__"]⟩,
  ⟨["float"],
    ["__abs__ __add__ __bool__ __ceil__ __divmod__ __eq__ __float__ __floor__ __floordiv__",
      "__format__ __ge__ __getattribute__ __getformat__ __getnewargs__ __gt__ __hash__ __int__",
      "__le__ __lt__ __mod__ __mul__ __ne__ __neg__ __new__ __pos__ __pow__ __radd__",
      "__rdivmod__ __repr__ __rfloordiv__ __rmod__ __rmul__ __round__ __rpow__ __rsub__",
      "__rtruediv__ __sub__ __truediv__ __trunc__ as_integer_ratio conjugate fromhex hex",
      "is_integer"],
    ["__doc__ imag real"]⟩,
  ⟨["complex"],
    ["__abs__ __add__ __bool__ __complex__ __eq__ __format__ __ge__ __getattribute__",
      "__getnewargs__ __gt__ __hash__ __le__ __lt__ __mul__ __ne__ __neg__ __new__ __pos__",
      "__pow__ __radd__ __repr__ __rmul__ __rpow__ __rsub__ __rtruediv__ __sub__ __truediv__",
      "conjugate"],
    ["__doc__ imag real"]⟩,
  ⟨["str"],
    ["__add__ __contains__ __eq__ __format__ __ge__ __getattribute__ __getitem__",
      "__getnewargs__ __gt__ __hash__ __iter__ __le__ __len__ __lt__ __mod__ __mul__ __ne__",
      "__new__ __repr__ __rmod__ __rmul__ __sizeof__ __str__ capitalize casefold center count",
      "encode endswith expandtabs find format format_map index isalnum isalpha isascii",
      "isdecimal isdigit isidentifier islower isnumeric isprintable isspace istitle isupper",
      "join ljust lower lstrip maketrans partition removeprefix removesuffix replace rfind",
      "rindex rjust rpartition rsplit rstrip split splitlines startswith strip swapcase title",
      "translate upper zfill"],
    ["__doc__"]⟩,
  ⟨["bytes"],
    ["__add__ __bytes__ __contains__ __eq__ __ge__ __getattribute__ __getitem__ __getnewargs__",
      "__gt__ __hash__ __iter__ __le__ __len__ __lt__ __mod__ __mul__ __ne__ __new__ __repr__",
      "__rmod__ __rmul__ __str__ capitalize center count decode endswith expandtabs find",
      "fromhex hex index isalnum isalpha isascii isdigit islower isspace istitle isupper join",
      "ljust lower lstrip maketrans partition removeprefix removesuffix replace rfind rindex",
      "rjust rpartition rsplit rstrip split splitlines startswith strip swapcase title",
      "translate upper zfill"],
    ["__doc__"]⟩,
  ⟨["bytearray"],
    ["__add__ __alloc__ __contains__ __delitem__ __eq__ __ge__ __getattribute__ __getitem__",
      "__gt__ __iadd__ __imul__ __init__ __iter__ __le__ __len__ __lt__ __mod__ __mul__ __ne__",
      "__new__ __reduce__ __reduce_ex__ __repr__ __rmod__ __rmul__ __setitem__ __sizeof__",
      "__str__ append capitalize center clear copy count decode endswith expandtabs extend find",
      "fromhex hex index insert isalnum isalpha isascii isdigit islower isspace istitle isupper",
      "join ljust lower lstrip maketrans partition pop remove removeprefix removesuffix replace",
      "reverse rfind rindex rjust rpartition rsplit rstrip split splitlines startswith strip",
      "swapcase title translate upper zfill"],
    ["__doc__ __hash__"]⟩,
  ⟨["memoryview"],
    ["__delitem__ __enter__ __eq__ __exit__ __ge__ __getattribute__ __getitem__ __gt__",
      "__hash__ __iter__ __le__ __len__ __lt__ __ne__ __new__ __repr__ __setitem__ cast hex",
      "release tobytes tolist toreadonly"],
    ["__doc__ c_contiguous contiguous f_contiguous format itemsize nbytes ndim obj readonly",
      "shape strides suboffsets"]⟩,
  ⟨["list"],
    ["__add__ __class_getitem__ __contains__ __delitem__ __eq__ __ge__ __getattribute__",
      "__getitem__ __gt__ __iadd__ __imul__ __init__ __iter__ __le__ __len__ __lt__ __mul__",
      "__ne__ __new__ __repr__ __reversed__ __rmul__ __setitem__ __sizeof__ append clear copy",
      "count extend index insert pop remove reverse sort"],
    ["__doc__ __hash__"]⟩,
  ⟨["tuple"],
    ["__add__ __class_getitem__ __contains__ __eq__ __ge__ __getattribute__ __getitem__",
      "__getnewargs__ __gt__ __hash__ __iter__ __le__ __len__ __lt__ __mul__ __ne__ __new__",
      "__repr__ __rmul__ count index"],
    ["__doc__"]⟩,
  ⟨["dict"],
    ["__class_getitem__ __contains__ __delitem__ __eq__ __ge__ __getattribute__ __getitem__",
      "__gt__ __init__ __ior__ __iter__ __le__ __len__ __lt__ __ne__ __new__ __or__ __repr__",
      "__reversed__ __ror__ __setitem__ __sizeof__ clear copy fromkeys get items keys pop",
      "popitem setdefault update values"],
    ["__doc__ __hash__"]⟩,
  ⟨["set"],
    ["__and__ __class_getitem__ __contains__ __eq__ __ge__ __getattribute__ __gt__ __iand__",
      "__init__ __ior__ __isub__ __iter__ __ixor__ __le__ __len__ __lt__ __ne__ __new__ __or__",
      "__rand__ __reduce__ __repr__ __ror__ __rsub__ __rxor__ __sizeof__ __sub__ __xor__ add",
      "clear copy difference difference_update discard intersection intersection_update",
      "isdisjoint issubset issuperset pop remove symmetric_difference",
      "symmetric_difference_update union update"],
    ["__doc__ __hash__"]⟩,
  ⟨["frozenset"],
    ["__and__ __class_getitem__ __contains__ __eq__ __ge__ __getattribute__ __gt__ __hash__",
      "__iter__ __le__ __len__ __lt__ __ne__ __new__ __or__ __rand__ __reduce__ __repr__",
      "__ror__ __rsub__ __rxor__ __sizeof__ __sub__ __xor__ copy difference intersection",
      "isdisjoint issubset issuperset symmetric_difference union"],
    ["__doc__"]⟩,
  ⟨["range"],
    ["__bool__ __contains__ __eq__ __ge__ __getattribute__ __getitem__ __gt__ __hash__",
      "__iter__ __le__ __len__ __lt__ __ne__ __new__ __reduce__ __repr__ __reversed__ count",
      "index"],
    ["__doc__ start step stop"]⟩,
  ⟨["slice"],
    ["__eq__ __ge__ __getattribute__ __gt__ __le__ __lt__ __ne__ __new__ __reduce__ __repr__",
      "indices"],
    ["__doc__ __hash__ start step stop"]⟩,
  ⟨["property"],
    ["__delete__ __get__ __getattribute__ __init__ __new__ __set__ __set_name__ deleter getter",
      "setter"],
    ["__doc__ __isabstractmethod__ fdel fget fset"]⟩,
  ⟨["classmethod"],
    ["__get__ __init__ __new__ __repr__"],
    ["__dict__ __doc__ __func__ __isabstractmethod__ __wrapped__"]⟩,
  ⟨["staticmethod"],
    ["__call__ __get__ __init__ __new__ __repr__"],
    ["__dict__ __doc__ __func__ __isabstractmethod__ __wrapped__"]⟩,
  ⟨["super"],
    ["__get__ __getattribute__ __init__ __new__ __repr__"],
    ["__doc__ __self__ __self_class__ __thisclass__"]⟩,
  ⟨["enumerate"],
    ["__class_getitem__ __getattribute__ __iter__ __new__ __next__ __reduce__"],
    ["__doc__"]⟩,
  ⟨["zip"],
    ["__getattribute__ __iter__ __new__ __next__ __reduce__ __setstate__"],
    ["__doc__"]⟩,
  ⟨["map filter"],
    ["__getattribute__ __iter__ __new__ __next__ __reduce__"],
    ["__doc__"]⟩,
  ⟨["reversed"],
    ["__getattribute__ __iter__ __length_hint__ __new__ __next__ __reduce__ __setstate__"],
    ["__doc__"]⟩,
  ⟨["NoneType"],
    ["__bool__ __new__ __repr__"],
    ["__doc__"]⟩,
  ⟨["ellipsis"],
    ["__getattribute__ __new__ __reduce__ __repr__"],
    ["__doc__"]⟩,
  ⟨["NotImplementedType"],
    ["__bool__ __new__ __reduce__ __repr__"],
    ["__doc__"]⟩,
  ⟨["function"],
    ["__call__ __get__ __new__ __repr__"],
    ["__annotations__ __builtins__ __closure__ __code__ __defaults__ __dict__ __doc__",
      "__globals__ __kwdefaults__ __module__ __name__ __qualname__"]⟩,
  ⟨["builtin_function_or_method"],
    ["__call__ __eq__ __ge__ __getattribute__ __gt__ __hash__ __le__ __lt__ __ne__ __reduce__",
      "__repr__"],
    ["__doc__ __module__ __name__ __qualname__ __self__ __text_signature__"]⟩,
  ⟨["method"],
    ["__call__ __delattr__ __eq__ __ge__ __getattribute__ __gt__ __hash__ __le__ __lt__ __ne__",
      "__new__ __reduce__ __repr__ __setattr__"],
    ["__doc__ __func__ __self__"]⟩,
  ⟨["generator"],
    ["__del__ __getattribute__ __iter__ __next__ __repr__ __sizeof__ close send throw"],
    ["__doc__ __name__ __qualname__ gi_code gi_frame gi_running gi_suspended gi_yieldfrom"]⟩,
  ⟨["coroutine"],
    ["__await__ __del__ __getattribute__ __repr__ __sizeof__ close send throw"],
    ["__doc__ __name__ __qualname__ cr_await cr_code cr_frame cr_origin cr_running",
      "cr_suspended"]⟩,
  ⟨["async_generator"],
    ["__aiter__ __anext__ __class_getitem__ __del__ __getattribute__ __repr__ __sizeof__",
      "aclose asend athrow"],
    ["__doc__ __name__ __qualname__ ag_await ag_code ag_frame ag_running"]⟩,
  ⟨["list_iterator tuple_iterator str_ascii_iterator str_iterator bytes_iterator",
      "bytearray_iterator range_iterator longrange_iterator list_reverseiterator iterator"],
    ["__getattribute__ __iter__ __length_hint__ __next__ __reduce__ __setstate__"],
    ["__doc__"]⟩,
  ⟨["set_iterator dict_keyiterator dict_valueiterator dict_itemiterator"],
    ["__getattribute__ __iter__ __length_hint__ __next__ __reduce__"],
    ["__doc__"]⟩,
  ⟨["dict_reversekeyiterator dict_reversevalueiterator dict_reverseitemiterator"],
    ["__iter__ __length_hint__ __next__ __reduce__"],
    ["__doc__"]⟩,
  ⟨["callable_iterator"],
    ["__getattribute__ __iter__ __next__ __reduce__"],
    ["__doc__"]⟩,
  ⟨["_deque_iterator _deque_reverse_iterator"],
    ["__getattribute__ __iter__ __length_hint__ __new__ __next__ __reduce__"],
    ["__doc__"]⟩,
  ⟨["memory_iterator"],
    ["__getattribute__ __iter__ __next__"],
    ["__doc__"]⟩,
  ⟨["dict_keys dict_items"],
    ["__and__ __contains__ __eq__ __ge__ __getattribute__ __gt__ __iter__ __le__ __len__",
      "__lt__ __ne__ __or__ __rand__ __repr__ __reversed__ __ror__ __rsub__ __rxor__ __sub__",
      "__xor__ isdisjoint"],
    ["__doc__ __hash__ mapping"]⟩,
  ⟨["dict_values"],
    ["__getattribute__ __iter__ __len__ __repr__ __reversed__"],
    ["__doc__ mapping"]⟩,
  ⟨["mappingproxy"],
    ["__class_getitem__ __contains__ __eq__ __ge__ __getattribute__ __getitem__ __gt__ __ior__",
      "__iter__ __le__ __len__ __lt__ __ne__ __new__ __or__ __repr__ __reversed__ __ror__",
      "__str__ copy get items keys values"],
    ["__doc__ __hash__"]⟩,
  ⟨["cell"],
    ["__eq__ __ge__ __getattribute__ __gt__ __le__ __lt__ __ne__ __new__ __repr__"],
    ["__doc__ __hash__ cell_contents"]⟩,
  ⟨["code"],
    ["__eq__ __ge__ __getattribute__ __gt__ __hash__ __le__ __lt__ __ne__ __new__ __repr__",
      "__sizeof__ _varname_from_oparg co_lines co_positions replace"],
    ["__doc__ _co_code_adaptive co_argcount co_cellvars co_code co_consts co_exceptiontable",
      "co_filename co_firstlineno co_flags co_freevars co_kwonlyargcount co_linetable co_lnotab",
      "co_name co_names co_nlocals co_posonlyargcount co_qualname co_stacksize co_varnames"]⟩,
  ⟨["module"],
    ["__delattr__ __dir__ __getattribute__ __init__ __new__ __repr__ __setattr__"],
    ["__annotations__ __dict__ __doc__"]⟩,
  ⟨["GenericAlias"],
    ["__call__ __dir__ __eq__ __ge__ __getattribute__ __getitem__ __gt__ __hash__",
      "__instancecheck__ __iter__ __le__ __lt__ __mro_entries__ __ne__ __new__ __or__",
      "__reduce__ __repr__ __ror__ __subclasscheck__"],
    ["__args__ __doc__ __origin__ __parameters__ __typing_unpacked_tuple_args__ __unpacked__"]⟩,
  ⟨["UnionType"],
    ["__eq__ __ge__ __getattribute__ __getitem__ __gt__ __hash__ __le__ __lt__ __ne__ __or__",
      "__repr__ __ror__"],
    ["__args__ __doc__ __parameters__"]⟩,
  ⟨["deque"],
    ["__add__ __class_getitem__ __contains__ __copy__ __delitem__ __eq__ __ge__",
      "__getattribute__ __getitem__ __gt__ __iadd__ __imul__ __init__ __iter__ __le__ __len__",
      "__lt__ __mul__ __ne__ __new__ __reduce__ __repr__ __reversed__ __rmul__ __setitem__",
      "__sizeof__ append appendleft clear copy count extend extendleft index insert pop popleft",
      "remove reverse rotate"],
    ["__doc__ __hash__ maxlen"]⟩,
  ⟨["Decimal"],
    ["__abs__ __add__ __bool__ __ceil__ __complex__ __copy__ __deepcopy__ __divmod__ __eq__",
      "__float__ __floor__ __floordiv__ __format__ __ge__ __getattribute__ __gt__ __hash__",
      "__int__ __le__ __lt__ __mod__ __mul__ __ne__ __neg__ __new__ __pos__ __pow__ __radd__",
      "__rdivmod__ __reduce__ __repr__ __rfloordiv__ __rmod__ __rmul__ __round__ __rpow__",
      "__rsub__ __rtruediv__ __sizeof__ __str__ __sub__ __truediv__ __trunc__ adjusted",
      "as_integer_ratio as_tuple canonical compare compare_signal compare_total",
      "compare_total_mag conjugate copy_abs copy_negate copy_sign exp fma from_float",
      "is_canonical is_finite is_infinite is_nan is_normal is_qnan is_signed is_snan",
      "is_subnormal is_zero ln log10 logb logical_and logical_invert logical_or logical_xor max",
      "max_mag min min_mag next_minus next_plus next_toward normalize number_class quantize",
      "radix remainder_near rotate same_quantum scaleb shift sqrt to_eng_string to_integral",
      "to_integral_exact to_integral_value"],
    ["__doc__ __module__ imag real"]⟩,
  ⟨["DecimalTuple"],
    ["__getnewargs__ __new__ __repr__ _asdict _make _replace"],
    ["__doc__ __match_args__ __module__ __slots__ _field_defaults _fields digits exponent sign"]⟩,
  ⟨["date"],
    ["__add__ __eq__ __format__ __ge__ __getattribute__ __gt__ __hash__ __le__ __lt__ __ne__",
      "__new__ __radd__ __reduce__ __repr__ __rsub__ __str__ __sub__ ctime fromisocalendar",
      "fromisoformat fromordinal fromtimestamp isocalendar isoformat isoweekday replace",
      "strftime timetuple today toordinal weekday"],
    ["__doc__ day max min month resolution year"]⟩,
  ⟨["datetime"],
    ["__add__ __eq__ __ge__ __getattribute__ __gt__ __hash__ __le__ __lt__ __ne__ __new__",
      "__radd__ __reduce__ __reduce_ex__ __repr__ __rsub__ __str__ __sub__ astimezone combine",
      "ctime date dst fromisoformat fromtimestamp isoformat now replace strptime time timestamp",
      "timetuple timetz tzname utcfromtimestamp utcnow utcoffset utctimetuple"],
    ["__doc__ fold hour max microsecond min minute resolution second tzinfo"]⟩,
  ⟨["timedelta"],
    ["__abs__ __add__ __bool__ __divmod__ __eq__ __floordiv__ __ge__ __getattribute__ __gt__",
      "__hash__ __le__ __lt__ __mod__ __mul__ __ne__ __neg__ __new__ __pos__ __radd__",
      "__rdivmod__ __reduce__ __repr__ __rfloordiv__ __rmod__ __rmul__ __rsub__ __rtruediv__",
      "__str__ __sub__ __truediv__ total_seconds"],
    ["__doc__ days max microseconds min resolution seconds"]⟩,
  ⟨["timezone"],
    ["__eq__ __ge__ __getinitargs__ __gt__ __hash__ __le__ __lt__ __ne__ __new__ __repr__",
      "__str__ dst fromutc tzname utcoffset"],
    ["__doc__ max min utc"]⟩,
  ⟨["OrderedDict"],
    ["__delitem__ __eq__ __ge__ __gt__ __init__ __ior__ __iter__ __le__ __lt__ __ne__ __or__",
      "__reduce__ __repr__ __reversed__ __ror__ __setitem__ __sizeof__ clear copy fromkeys",
      "items keys move_to_end pop popitem setdefault update values"],
    ["__dict__ __doc__ __hash__"]⟩,
  ⟨["defaultdict"],
    ["__class_getitem__ __copy__ __getattribute__ __init__ __missing__ __or__ __reduce__",
      "__repr__ __ror__ copy"],
    ["__doc__ default_factory"]⟩,
  ⟨["coroutine_wrapper"],
    ["__getattribute__ __iter__ __next__ close send throw"],
    ["__doc__"]⟩,
  ⟨["async_generator_asend async_generator_athrow"],
    ["__await__ __getattribute__ __iter__ __next__ close send throw"],
    ["__doc__"]⟩,
  ⟨["getset_descriptor member_descriptor"],
    ["__delete__ __get__ __getattribute__ __repr__ __set__"],
    ["__doc__ __name__ __objclass__ __qualname__"]⟩,
  ⟨["method_descriptor wrapper_descriptor"],
    ["__call__ __get__ __getattribute__ __reduce__ __repr__"],
    ["__doc__ __name__ __objclass__ __qualname__ __text_signature__"]⟩,
  ⟨["method-wrapper"],
    ["__call__ __eq__ __ge__ __getattribute__ __gt__ __hash__ __le__ __lt__ __ne__ __reduce__",
      "__repr__"],
    ["__doc__ __name__ __objclass__ __qualname__ __self__ __text_signature__"]⟩,
  ⟨["UserList"],
    ["_UserList__cast __add__ __class_getitem__ __contains__ __copy__ __delitem__ __eq__",
      "__ge__ __getitem__ __gt__ __iadd__ __imul__ __init__ __iter__ __le__ __len__ __lt__",
      "__mul__ __radd__ __repr__ __reversed__ __rmul__ __setitem__ __subclasshook__ append",
      "clear copy count extend index insert pop remove reverse sort"],
    ["__abstractmethods__ __dict__ __doc__ __hash__ __module__ __slots__ __weakref__ _abc_impl"]⟩,
  ⟨["UserString"],
    ["__add__ __class_getitem__ __complex__ __contains__ __eq__ __float__ __ge__ __getitem__",
      "__getnewargs__ __gt__ __hash__ __init__ __int__ __iter__ __le__ __len__ __lt__ __mod__",
      "__mul__ __radd__ __repr__ __reversed__ __rmod__ __rmul__ __str__ __subclasshook__",
      "capitalize casefold center count encode endswith expandtabs find format format_map index",
      "isalnum isalpha isascii isdecimal isdigit isidentifier islower isnumeric isprintable",
      "isspace istitle isupper join ljust lower lstrip maketrans partition removeprefix",
      "removesuffix replace rfind rindex rjust rpartition rsplit rstrip split splitlines",
      "startswith strip swapcase title translate upper zfill"],
    ["__abstractmethods__ __dict__ __doc__ __module__ __slots__ __weakref__ _abc_impl"]⟩,
  ⟨["Fraction"],
    ["__abs__ __add__ __bool__ __ceil__ __complex__ __copy__ __deepcopy__ __divmod__ __eq__",
      "__float__ __floor__ __floordiv__ __ge__ __gt__ __hash__ __int__ __le__ __lt__ __mod__",
      "__mul__ __neg__ __new__ __pos__ __pow__ __radd__ __rdivmod__ __reduce__ __repr__",
      "__rfloordiv__ __rmod__ __rmul__ __round__ __rpow__ __rsub__ __rtruediv__ __str__ __sub__",
      "__truediv__ __trunc__ _add _div _divmod _floordiv _mod _mul _operator_fallbacks _richcmp",
      "_sub as_integer_ratio conjugate from_decimal from_float limit_denominator"],
    ["__abstractmethods__ __doc__ __module__ __slots__ _abc_impl _denominator _numerator",
      "denominator imag numerator real"]⟩,
  ⟨["AttributeError"],
    ["__init__ __str__"],
    ["__doc__ name obj"]⟩,
  ⟨["BaseException"],
    ["__delattr__ __getattribute__ __init__ __new__ __reduce__ __repr__ __setattr__",
      "__setstate__ __str__ add_note with_traceback"],
    ["__cause__ __context__ __dict__ __doc__ __suppress_context__ __traceback__ args"]⟩,
  ⟨["BaseExceptionGroup"],
    ["__class_getitem__ __init__ __new__ __str__ derive split subgroup"],
    ["__doc__ exceptions message"]⟩,
  ⟨["OSError"],
    ["__init__ __new__ __reduce__ __str__"],
    ["__doc__ characters_written errno filename filename2 strerror"]⟩,
  ⟨["ExceptionGroup DecimalException"],
    [],
    ["__doc__ __module__ __weakref__"]⟩,
  ⟨["ImportError"],
    ["__init__ __reduce__ __str__"],
    ["__doc__ msg name path"]⟩,
  ⟨["KeyError"],
    ["__init__ __str__"],
    ["__doc__"]⟩,
  ⟨["NameError"],
    ["__init__ __str__"],
    ["__doc__ name"]⟩,
  ⟨["StopIteration"],
    ["__init__"],
    ["__doc__ value"]⟩,
  ⟨["SyntaxError"],
    ["__init__ __str__"],
    ["__doc__ end_lineno end_offset filename lineno msg offset print_file_and_line text"]⟩,
  ⟨["SystemExit"],
    ["__init__"],
    ["__doc__ code"]⟩,
  ⟨["UnicodeDecodeError UnicodeEncodeError UnicodeTranslateError"],
    ["__init__ __new__ __str__"],
    ["__doc__ encoding end object reason start"]⟩,
  ⟨["InvalidOperation"],
    [],
    ["__doc__ __module__"]⟩]

/-- The methods and the other parts of each class. -/
def table : Std.HashMap String (List String × List String) :=
  rows.foldl (fun t r =>
    let row := (words r.methods, words r.parts)
    (words r.classes).foldl (fun t c => t.insert c row) t) ∅

/-- The methods that a class has by itself. -/
def methods (cls : String) : List String := (table[cls]?.map (·.1)).getD []

/-- The other parts that a class has by itself. -/
def parts (cls : String) : List String := (table[cls]?.map (·.2)).getD []

end Member

end LiveMarkdown.Script
