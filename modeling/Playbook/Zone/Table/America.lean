/-!
# Playbook.Zone.Table.America

The histories of the zones whose names start with `America`, in the form of
`Playbook.Zone.History`.
-/

namespace Playbook.Zone.Table

/-- Names of zones with their histories. -/
def america : List (String × String) := [
  ("America/Adak",
    "44002 -42398 -39600 -36000d -36000 -32400d;b2ni5hw1 ch4z1xp dln70qa c1wd180 dcawis0
    c9cyk0 d9d440 c9cyk0 d9d440 c9px80 d9d440 c9cyk0 d9d440 c9cyk0 d3lpg0 cf4d80 d64g40
    cclmk0 d9d440 c9px80 d905g0 c9px80 d9d440 c9cyk0 d9d440 c9cyk0 d9d440 c9cyk0 d9d440
    c9cyk0 d9d440 c9px80 d905g0 e9px80 f9d1c0 e9cyk0 f9d440 e9cyk0 f9d440 e9cyk0 f8a840
    eafuk0 f8a840 east80 f7x9g0 east80 f7x9g0 east80 f8a840 eafuk0 f8a840 eafuk0 f8a840
    east80 f7x9g0 east80 f7x9g0 east80 f8a840 eafuk0 f8a840 eafuk0 f8a840 eafuk0 f8a840
    east80 f7x9g0 east80 f7x9g0 east80 f8a840 eafuk0 f8a840 eafuk0 f8a840 east80 f7x9g0
    east80 f7x9g0 east80;2007 f3.2.0/7200 e11.1.0/7200"),
  ("America/Anchorage",
    "50424 -35976 -36000 -32400d -32400 -28800d;b2ni5hw1 ch4ywzb dln72wo c1wd180 dcawis0
    c9cyk0 d9d440 c9cyk0 d9d440 c9px80 d9d440 c9cyk0 d9d440 c9cyk0 d3lpg0 cf4d80 d64g40
    cclmk0 d9d440 c9px80 d905g0 c9px80 d9d440 c9cyk0 d9d440 c9cyk0 d9d440 c9cyk0 d9d440
    c9cyk0 d9d440 c9px80 d905g0 e9px80 f9d1c0 e9cyk0 f9d440 e9cyk0 f9d440 e9cyk0 f8a840
    eafuk0 f8a840 east80 f7x9g0 east80 f7x9g0 east80 f8a840 eafuk0 f8a840 eafuk0 f8a840
    east80 f7x9g0 east80 f7x9g0 east80 f8a840 eafuk0 f8a840 eafuk0 f8a840 eafuk0 f8a840
    east80 f7x9g0 east80 f7x9g0 east80 f8a840 eafuk0 f8a840 eafuk0 f8a840 east80 f7x9g0
    east80 f7x9g0 east80;2007 f3.2.0/7200 e11.1.0/7200"),
  ("America/Araguaina",
    "-11568 -10800 -7200d;b3bm7pdc c99k8mo b9a9c0 c9io40 b99980 c8p65g0 b6zuo0 cbs2o0 b67zw0
    ccjxg0 b69uk0 ccjxg0 b4ml80 c5mf440 b49mk0 chaas0 b316k0 ccls40 b4ml80 ccls40 b66580
    ccls40 b67zw0 c981s40 b6u7w0 cbiw40 b5rbw0 cd0lg0 b5ed80 ccyqs0 b5ed80 cdbpg0 b64ak0
    c2yl440 b64ak0 cc8tg0 b6u7w0 cbxpg0 b7iak0 cbiw40 b6u7w0 cbiw40 b7k580 cbiw40 b6u7w0
    cc8tg0 b6h980 cdbpg0 b5ed80 c51udg0 b64ak0;"),
  ("America/Argentina/Buenos_Aires",
    "-14028 -15408 -14400 -10800d -10800 -7200d;b31m2xxo cdb2bqc d5iv8k0 c67zw0 da4w40 c73h80
    dcls40 c66580 dcls40 c66580 dcls40 c66580 dcls40 c67zw0 dcls40 c66580 dcls40 c66580
    dcls40 c66580 dcls40 c67zw0 d6a040 chy7w0 d6a040 cxovw0 d3uys0 c18nbw0 db0dg0 c8ve2k0
    d3uys0 c3yik0 dbqas0 c71mk0 dbqas0 c71mk0 dbqas0 c8ovw0 d9d440 c9px80 d9d440 c9cyk0
    e9d440 f28t6k0 e51ek0 f7m2qs0 e4tzw0 fbiw40 e776k0 fbvus0 e6u7w0 fbvus0 e6u7w0 fbvus0
    e776k0 d3fidg0 e7thc0 f430lc0 e3yik0 fb5xg0 e7k580;"),
  ("America/Argentina/Catamarca",
    "-15788 -15408 -14400 -10800d -10800 -7200d;b31m2zak cdb2adg d5iv8k0 c67zw0 da4w40 c73h80
    dcls40 c66580 dcls40 c66580 dcls40 c66580 dcls40 c67zw0 dcls40 c66580 dcls40 c66580
    dcls40 c66580 dcls40 c67zw0 d6a040 chy7w0 d6a040 cxovw0 d3uys0 c18nbw0 db0dg0 c8ve2k0
    d3uys0 c3yik0 dbqas0 c71mk0 dbqas0 c71mk0 dbqas0 c8ovw0 d9d440 c9px80 d9d440 c9cyk0
    e9d440 f28t6k0 e51ek0 f7m2qs0 e4tzw0 fbiw40 e776k0 fbvus0 c6u7w0 fbvxk0 e6u540 fbvus0
    e776k0 d3fidg0 e7thc0 c27s800 ez9g0 f1u93w0 e3yik0;"),
  ("America/Argentina/Cordoba",
    "-15408 -14400 -10800d -10800 -7200d;b3ex59o0 c5iv8k0 b67zw0 ca4w40 b73h80 ccls40 b66580
    ccls40 b66580 ccls40 b66580 ccls40 b67zw0 ccls40 b66580 ccls40 b66580 ccls40 b66580
    ccls40 b67zw0 c6a040 bhy7w0 c6a040 bxovw0 c3uys0 b18nbw0 cb0dg0 b8ve2k0 c3uys0 b3yik0
    cbqas0 b71mk0 cbqas0 b71mk0 cbqas0 b8ovw0 c9d440 b9px80 c9d440 b9cyk0 d9d440 e28t6k0
    d51ek0 e7m2qs0 d4tzw0 ebiw40 d776k0 ebvus0 b6u7w0 ebvxk0 d6u540 ebvus0 d776k0 c3fidg0
    d7thc0 e430lc0 d3yik0 eb5xg0 d7k580;"),
  ("America/Argentina/Jujuy",
    "-15672 -15408 -14400 -10800d -10800 -7200d;b31m2z7c cdb2ago d5iv8k0 c67zw0 da4w40 c73h80
    dcls40 c66580 dcls40 c66580 dcls40 c66580 dcls40 c67zw0 dcls40 c66580 dcls40 c66580
    dcls40 c66580 dcls40 c67zw0 d6a040 chy7w0 d6a040 cxovw0 d3uys0 c18nbw0 db0dg0 c8ve2k0
    d3uys0 c3yik0 dbqas0 c71mk0 dbqas0 c71mk0 dbqas0 c8ovw0 d9d440 c9px80 d9d440 c9cyk0
    e9d440 f28t6k0 e51ek0 f7m2qs0 e4tzw0 fbiw40 c776k0 dc8w80 c776k0 fag040 e7k2g0 fbvus0
    e776k0 d3fidg0 e7thc0 f430lc0 e3yik0;"),
  ("America/Argentina/La_Rioja",
    "-16044 -15408 -14400 -10800d -10800 -7200d;b31m2zho cdb2a6c d5iv8k0 c67zw0 da4w40 c73h80
    dcls40 c66580 dcls40 c66580 dcls40 c66580 dcls40 c67zw0 dcls40 c66580 dcls40 c66580
    dcls40 c66580 dcls40 c67zw0 d6a040 chy7w0 d6a040 cxovw0 d3uys0 c18nbw0 db0dg0 c8ve2k0
    d3uys0 c3yik0 dbqas0 c71mk0 dbqas0 c71mk0 dbqas0 c8ovw0 d9d440 c9px80 d9d440 c9cyk0
    e9d440 f28t6k0 e51ek0 f7m2qs0 e4tzw0 fbiw40 e776k0 fbvus0 c6qik0 e3g880 f8jbw0 e6u7w0
    fbvus0 e776k0 d3fidg0 e7thc0 c27s800 ez9g0 f1u93w0 e3yik0;"),
  ("America/Argentina/Mendoza",
    "-16516 -15408 -14400 -10800d -10800 -7200d;b31m2zus cdb29t8 d5iv8k0 c67zw0 da4w40 c73h80
    dcls40 c66580 dcls40 c66580 dcls40 c66580 dcls40 c67zw0 dcls40 c66580 dcls40 c66580
    dcls40 c66580 dcls40 c67zw0 d6a040 chy7w0 d6a040 cxovw0 d3uys0 c18nbw0 db0dg0 c8ve2k0
    d3uys0 c3yik0 dbqas0 c71mk0 dbqas0 c71mk0 dbqas0 c8ovw0 d9d440 c9px80 d9d440 c9cyk0
    e9d440 f28t6k0 e51ek0 f7m2qs0 e4tzw0 fbiw40 c776k0 dbktk0 c71mk0 dbqas0 c73h80 fbvus0
    e773s0 d3fidg0 e7thc0 c27bk00 e6hes0 f1p7mk0 e3yik0;"),
  ("America/Argentina/Rio_Gallegos",
    "-16612 -15408 -14400 -10800d -10800 -7200d;b31m2zxg cdb29qk d5iv8k0 c67zw0 da4w40 c73h80
    dcls40 c66580 dcls40 c66580 dcls40 c66580 dcls40 c67zw0 dcls40 c66580 dcls40 c66580
    dcls40 c66580 dcls40 c67zw0 d6a040 chy7w0 d6a040 cxovw0 d3uys0 c18nbw0 db0dg0 c8ve2k0
    d3uys0 c3yik0 dbqas0 c71mk0 dbqas0 c71mk0 dbqas0 c8ovw0 d9d440 c9px80 d9d440 c9cyk0
    e9d440 f28t6k0 e51ek0 f7m2qs0 e4tzw0 fbiw40 e776k0 fbvus0 e6u7w0 fbvus0 e6u7w0 fbvus0
    e776k0 d3fidg0 e7thc0 c27s800 ez9g0 f1u93w0 e3yik0;"),
  ("America/Argentina/Salta",
    "-15700 -15408 -14400 -10800d -10800 -7200d;b31m2z84 cdb2afw d5iv8k0 c67zw0 da4w40 c73h80
    dcls40 c66580 dcls40 c66580 dcls40 c66580 dcls40 c67zw0 dcls40 c66580 dcls40 c66580
    dcls40 c66580 dcls40 c67zw0 d6a040 chy7w0 d6a040 cxovw0 d3uys0 c18nbw0 db0dg0 c8ve2k0
    d3uys0 c3yik0 dbqas0 c71mk0 dbqas0 c71mk0 dbqas0 c8ovw0 d9d440 c9px80 d9d440 c9cyk0
    e9d440 f28t6k0 e51ek0 f7m2qs0 e4tzw0 fbiw40 e776k0 fbvus0 c6u7w0 fbvxk0 e6u540 fbvus0
    e776k0 d3fidg0 e7thc0 f430lc0 e3yik0;"),
  ("America/Argentina/San_Juan",
    "-16444 -15408 -14400 -10800d -10800 -7200d;b31m2zss cdb29v8 d5iv8k0 c67zw0 da4w40 c73h80
    dcls40 c66580 dcls40 c66580 dcls40 c66580 dcls40 c67zw0 dcls40 c66580 dcls40 c66580
    dcls40 c66580 dcls40 c67zw0 d6a040 chy7w0 d6a040 cxovw0 d3uys0 c18nbw0 db0dg0 c8ve2k0
    d3uys0 c3yik0 dbqas0 c71mk0 dbqas0 c71mk0 dbqas0 c8ovw0 d9d440 c9px80 d9d440 c9cyk0
    e9d440 f28t6k0 e51ek0 f7m2qs0 e4tzw0 fbiw40 e776k0 fbvus0 c6qik0 e3g880 f8jbw0 e6u7w0
    fbvus0 e776k0 d3fidg0 e7thc0 c27qdc0 e2txg0 f1sgak0 e3yik0;"),
  ("America/Argentina/San_Luis",
    "-15924 -15408 -14400 -10800d -10800 -7200d;b31m2zec cdb2a9o d5iv8k0 c67zw0 da4w40 c73h80
    dcls40 c66580 dcls40 c66580 dcls40 c66580 dcls40 c67zw0 dcls40 c66580 dcls40 c66580
    dcls40 c66580 dcls40 c67zw0 d6a040 chy7w0 d6a040 cxovw0 d3uys0 c18nbw0 db0dg0 c8ve2k0
    d3uys0 c3yik0 dbqas0 c71mk0 dbqas0 c71mk0 dbqas0 c8ovw0 d9d440 c9px80 d9d440 c9cyk0
    e9d440 f28t6k0 e51ek0 f7m2qs0 e4tzw0 fbiw40 c7pp80 db2aw0 c71mk0 e4qg40 d4conw0 e7thc0
    c27qdc0 e2txg0 f1sgak0 d14nw0 c2gys0 db5xg0 c7k580 eb5xg0;"),
  ("America/Argentina/Tucuman",
    "-15652 -15408 -14400 -10800d -10800 -7200d;b31m2z6s cdb2ah8 d5iv8k0 c67zw0 da4w40 c73h80
    dcls40 c66580 dcls40 c66580 dcls40 c66580 dcls40 c67zw0 dcls40 c66580 dcls40 c66580
    dcls40 c66580 dcls40 c67zw0 d6a040 chy7w0 d6a040 cxovw0 d3uys0 c18nbw0 db0dg0 c8ve2k0
    d3uys0 c3yik0 dbqas0 c71mk0 dbqas0 c71mk0 dbqas0 c8ovw0 d9d440 c9px80 d9d440 c9cyk0
    e9d440 f28t6k0 e51ek0 f7m2qs0 e4tzw0 fbiw40 e776k0 fbvus0 c6u7w0 fbvxk0 e6u540 fbvus0
    e776k0 d3fidg0 e7thc0 c27s800 emas0 f1um2k0 e3yik0 fb5xg0 e7k580;"),
  ("America/Argentina/Ushuaia",
    "-16392 -15408 -14400 -10800d -10800 -7200d;b31m2zrc cdb29wo d5iv8k0 c67zw0 da4w40 c73h80
    dcls40 c66580 dcls40 c66580 dcls40 c66580 dcls40 c67zw0 dcls40 c66580 dcls40 c66580
    dcls40 c66580 dcls40 c67zw0 d6a040 chy7w0 d6a040 cxovw0 d3uys0 c18nbw0 db0dg0 c8ve2k0
    d3uys0 c3yik0 dbqas0 c71mk0 dbqas0 c71mk0 dbqas0 c8ovw0 d9d440 c9px80 d9d440 c9cyk0
    e9d440 f28t6k0 e51ek0 f7m2qs0 e4tzw0 fbiw40 e776k0 fbvus0 e6u7w0 fbvus0 e6u7w0 fbvus0
    e776k0 d3fidg0 e7thc0 c27oio0 e12ys0 f1u93w0 e3yik0;"),
  ("America/Asuncion",
    "-13840 -14400 -10800 -10800d;b3kw44gg cldwofk bs4vw0 ds6w40 b7tek0 db0dg0 b7rjw0 db0dg0
    b7rjw0 db0dg0 b9cyk0 d9eys0 b9et80 d9eys0 b9cyk0 d9eys0 b9cyk0 d9eys0 b9cyk0 d9eys0
    b9et80 d9eys0 b9cyk0 d9eys0 b9cyk0 d9eys0 b9cyk0 d9eys0 b9et80 d9eys0 b9cyk0 dahus0
    b8a2k0 d9eys0 b9cyk0 d9o840 b7k580 db7s40 b93p80 d9gtg0 b7nuk0 db42s0 b7lzw0 db5xg0
    b7tek0 db9ms0 b776k0 dbiw40 b7k580 db5xg0 b7x3w0 dasys0 b7x3w0 dasys0 b7x3w0 db5xg0
    b9cyk0 d7kas0 bb5rw0 d7x9g0 bast80 da31g0 b7k580 db5xg0 b7k580 db5xg0 b7k580 dbiw40
    b776k0 dbiw40 b776k0 dbiw40 b8zzw0 d905g0 b9px80 d905g0 b9px80 d9d440 b8n180 da31g0
    b8n180 da31g0 b8n180 da31g0 b8zzw0 d9q2s0 b8zzw0 d9q2s0 b8zzw0 da31g0 b8n180 da31g0
    b8n180 da31g0 b8zzw0 d9q2s0 b8zzw0 d9q2s0 b8zzw0 d9q2s0 b8zzw0 da31g0 cgl80;"),
  ("America/Bahia",
    "-9244 -10800 -7200d;b3bm7nks c99kaf8 b9a9c0 c9io40 b99980 c8p65g0 b6zuo0 cbs2o0 b67zw0
    ccjxg0 b69uk0 ccjxg0 b4ml80 c5mf440 b49mk0 chaas0 b316k0 ccls40 b4ml80 ccls40 b66580
    ccls40 b67zw0 c981s40 b6u7w0 cbiw40 b5rbw0 cd0lg0 b5ed80 ccyqs0 b5ed80 cdbpg0 b64ak0
    ccyqs0 b64ak0 ccls40 b5rbw0 cdbpg0 b51ek0 cdbpg0 b6h980 cc8tg0 b6h980 cc8tg0 b64ak0
    cc8tg0 b6u7w0 cbxpg0 b7iak0 cbiw40 b6u7w0 cbiw40 b7k580 cbiw40 b6u7w0 cc8tg0 b6h980
    cdbpg0 b5ed80 c4irc40 b6u7w0;"),
  ("America/Bahia_Banderas",
    "-25260 -25200 -21600 -21600d -18000d;b3fsj3w0 c2u5s00 b1si580 d8jhg0 b7x3w0 c9eys0
    b591h80 ds5qoc0 bafuk0 d8a840 bafuk0 d8a840 bafuk0 d8a840 bast80 d7x9g0 bast80 d9q2s0
    b7k580 d9q2s0 bafuk0 d8a840 bafuk0 d8a840 bast80 d7x9g0 bast80 d7x9g0 bast80 d7x9g0
    bast80 d8a840 bafuk0 d8a840 bafuk0 e8a840 casqg0 e7x9g0 cast80 e7x9g0 cast80 e8a840
    cafuk0 e8a840 cafuk0 e8a840 cafuk0 e8a840 cast80 e7x9g0 cast80 e7x9g0 cast80 e8a840
    cafuk0 e8a840 cafuk0 e8a840 cast80 e7x9g0 cast80;"),
  ("America/Barbados",
    "-14309 -14400 -10800d -12600d;b3ae4q5h cfzq06j b6w840 ccjrw0 b6hes0 db7mk0 b7ves0
    ch3dpc0 b5rbw0 ca31g0 b8n180 ca31g0 b8n180 cag040 b84ik0;"),
  ("America/Belem",
    "-11636 -10800 -7200d;b3bm7pf8 c99k8ks b9a9c0 c9io40 b99980 c8p65g0 b6zuo0 cbs2o0 b67zw0
    ccjxg0 b69uk0 ccjxg0 b4ml80 c5mf440 b49mk0 chaas0 b316k0 ccls40 b4ml80 ccls40 b66580
    ccls40 b67zw0 c981s40 b6u7w0 cbiw40 b5rbw0 cd0lg0 b5ed80;"),
  ("America/Belize",
    "-21168 -21600 -19800d -18000d;b3apaq40 c3edkc0 b6ham0 cc8s20 b6u9a0 cbvte0 b6u9a0 cbvte0
    b6u9a0 cc8s20 b6ham0 cc8s20 b6ham0 cc8s20 b6u9a0 cbvte0 b6u9a0 cbvte0 b6u9a0 cbvte0
    b6u9a0 cc8s20 b6ham0 cc8s20 b6ham0 cc8s20 b6u9a0 cbvte0 b6u9a0 cbvte0 b6u9a0 cc8s20
    b6ham0 cc8s20 b6ham0 cc8s20 b6ham0 cc8s20 b6u9a0 cbvte0 b6u9a0 cbvte0 b6u9a0 cc8s20
    b6ham0 cc8s20 b6ham0 cc8s20 b6u9a0 d6uc20 b1t67w0 cxulg0 b6u9a0 cbvte0 b6u9a0 cbvte0
    b6u9a0 cc8s20 b6ham0 cc8s20 b6ham0 cc8s20 b6u9a0 cbvte0 b6u9a0 cbvte0 b6u9a0 cbvte0
    b6u9a0 cc8s20 b6ham0 cc8s20 b6ham0 cc8s20 b6u9a0 cbvte0 b6u9a0 cbvte0 b6u9a0 cc8s20
    b6ham0 cc8s20 b6ham0 cc8s20 b6ham0 cc8s20 b6u9a0 cbvte0 b6u9a0 cbvte0 b6u9a0 cc8s20
    b6ham0 d319de0 b3e580 d4mcys0 b2vmk0;"),
  ("America/Boa_Vista",
    "-14560 -14400 -10800d;b3bm7rog c99k93k b9a9c0 c9io40 b99980 c8p65g0 b6zuo0 cbs2o0 b67zw0
    ccjxg0 b69uk0 ccjxg0 b4ml80 c5mf440 b49mk0 chaas0 b316k0 ccls40 b4ml80 ccls40 b66580
    ccls40 b67zw0 c981s40 b6u7w0 cbiw40 b5rbw0 cd0lg0 b5ed80 c62xk40 b7k580 cbiw40 bcvw0;"),
  ("America/Bogota",
    "-17776 -18000 -14400d;b3c2zjhs c14f1hi8 beefw0;"),
  ("America/Boise",
    "-27889 -28800 -25200d -25200 -21600d;b2vwcs00 chxltk0 bast80 c7x9g0 bast80 d1um840
    e9s7jw0 d1wd180 eb9gdg0 d9cyk0 e9d440 d9cyk0 e9d440 d9cyk0 e9d440 d9cyk0 e9d440 d9px80
    e9d440 d9cyk0 e9d440 d9cyk0 e51k40 ddoik0 e64g40 dclmk0 e9d440 d9px80 e905g0 d9px80
    e9d440 d9cyk0 e9d440 d9cyk0 e9d440 d9cyk0 e9d440 d9cyk0 e9d440 d9px80 e905g0 d9px80
    e9d440 d9cyk0 e9d440 d9cyk0 e9d440 d9cyk0 e8a840 dafuk0 e8a840 dast80 e7x9g0 dast80
    e7x9g0 dast80 e8a840 dafuk0 e8a840 dafuk0 e8a840 dast80 e7x9g0 dast80 e7x9g0 dast80
    e8a840 dafuk0 e8a840 dafuk0 e8a840 dafuk0 e8a840 dast80 e7x9g0 dast80 e7x9g0 dast80
    e8a840 dafuk0 e8a840 dafuk0 e8a840 dast80 e7x9g0 dast80 e7x9g0 dast80;2007 e3.2.0/7200
    d11.1.0/7200"),
  ("America/Cambridge_Bay",
    "0 -25200 -21600d -21600 -18000d -18000;b3eqwv40 cbjeec0 b1wd180 cdvfpg0 b9cyk0 c9d440
    b9cyk0 c9d440 b9cyk0 c9d440 b9cyk0 c9d440 b9px80 c905g0 b9px80 c9d440 b9cyk0 c9d440
    b9cyk0 c9d440 b9cyk0 c9d440 b9cyk0 c9d440 b9px80 c905g0 b9px80 c9d440 b9cyk0 c9d440
    b9cyk0 c9d440 b9cyk0 c8a840 bafuk0 c8a840 bast80 c7x9g0 bast80 c7x9g0 bast80 c8a840
    bafuk0 c8a840 bafuk0 c8a840 bast80 c7x9g0 bast80 c7x9g0 bast80 c8a840 bafuk0 c8a840
    bafuk0 c8a840 bafuk0 c8a840 dast80 e7x6o0 fast80 dct40 c7kj40 bast80 c8a840 bafuk0 c8a840
    bafuk0 c8a840 bast80 c7x9g0 bast80 c7x9g0 bast80;2007 c3.2.0/7200 b11.1.0/7200"),
  ("America/Campo_Grande",
    "-13108 -14400 -10800d;b3bm7qk4 c99ka7w b9a9c0 c9io40 b99980 c8p65g0 b6zuo0 cbs2o0 b67zw0
    ccjxg0 b69uk0 ccjxg0 b4ml80 c5mf440 b49mk0 chaas0 b316k0 ccls40 b4ml80 ccls40 b66580
    ccls40 b67zw0 c981s40 b6u7w0 cbiw40 b5rbw0 cd0lg0 b5ed80 ccyqs0 b5ed80 cdbpg0 b64ak0
    ccyqs0 b64ak0 ccls40 b5rbw0 cdbpg0 b51ek0 cdbpg0 b6h980 cc8tg0 b6h980 cc8tg0 b64ak0
    cc8tg0 b6u7w0 cbxpg0 b7iak0 cbiw40 b6u7w0 cbiw40 b7k580 cbiw40 b6u7w0 cc8tg0 b6h980
    cdbpg0 b5ed80 ccls40 b64ak0 cdfes0 b5nmk0 cc8tg0 b6h980 cdbpg0 b5rbw0 cbvus0 b6h980
    ccls40 b64ak0 ccls40 b6h980 cc8tg0 b6h980 cc8tg0 b6u7w0 cc8tg0 b64ak0 ccls40 b64ak0
    ccls40 b6h980 cc8tg0 b6h980 cc8tg0 b6h980 cc8tg0 b6h980 cdbpg0 b5ed80;"),
  ("America/Cancun",
    "-20824 -21600 -18000 -18000d -14400d;b3fsj140 cvb0dk0 bj8d00 d6x2wc0 bafuk0 d8a840
    cafuk0 e8a5c0 d64ak0 b4bms0 d8a840 bast80 d7x9g0 bast80 d9q2s0 b7k580 d9q2s0 bafuk0
    d8a840 bafuk0 d8a840 bast80 d7x9g0 bast80 d7x9g0 bast80 d7x9g0 bast80 d8a840 bafuk0
    d8a840 bafuk0 d8a840 bast80 d7x9g0 bast80 d7x9g0 bast80 d8a840 bafuk0 d8a840 bafuk0
    c51k40;"),
  ("America/Caracas",
    "-16064 -16060 -16200 -14400;b2z3cbi8 cbjfjzw drlo83w cmeoxm0 d4dps00;"),
  ("America/Cayenne",
    "-12560 -14400 -10800;b3ab5a4w ctcw6r4;"),
  ("America/Chicago",
    "-21036 -21600 -18000d -18000;b2vwcmg0 chxltk0 bast80 c7x9g0 bast80 cbvus0 b776k0 c7kas0
    bb5rw0 c9d440 b7k580 cb5xg0 b7x3w0 casys0 b7x3w0 casys0 b7x3w0 casys0 b7x3w0 casys0
    b7x3w0 cb5xg0 b7x3w0 casys0 b7x3w0 casys0 b7x3w0 casys0 b7x3w0 casys0 b7x3w0 cb5xg0
    b7k580 cb5xg0 b7x3w0 casys0 b7x3w0 d7x9g0 bdbjw0 c8a840 b7x3w0 casys0 b7x3w0 cb5xg0
    b7k580 cb5xg0 b7x3w0 casys0 b7x3w0 c6w840 b1wd180 casys0 b7x3w0 casys0 b7x3w0 casys0
    b7x3w0 casys0 b7x3w0 cb5xg0 b7k580 cb5xg0 b7x3w0 casys0 b7x3w0 casys0 b7x3w0 casys0
    b7x3w0 casys0 b9px80 c9d440 b9cyk0 c9d440 b9cyk0 c9d440 b9cyk0 c9d440 b9cyk0 c9d440
    b9px80 c9d440 b9cyk0 c9d440 b9cyk0 c9d440 b9cyk0 c9d440 b9cyk0 c9d440 b9px80 c905g0
    b9px80 c9d440 b9cyk0 c9d440 b9cyk0 c9d440 b9cyk0 c9d440 b9cyk0 c9d440 b9px80 c9d440
    b9cyk0 c9d440 b9cyk0 c3lpg0 bf4d80 c64g40 bclmk0 c9d440 b9px80 c905g0 b9px80 c9d440
    b9cyk0 c9d440 b9cyk0 c9d440 b9cyk0 c9d440 b9cyk0 c9d440 b9px80 c905g0 b9px80 c9d440
    b9cyk0 c9d440 b9cyk0 c9d440 b9cyk0 c8a840 bafuk0 c8a840 bast80 c7x9g0 bast80 c7x9g0
    bast80 c8a840 bafuk0 c8a840 bafuk0 c8a840 bast80 c7x9g0 bast80 c7x9g0 bast80 c8a840
    bafuk0 c8a840 bafuk0 c8a840 bafuk0 c8a840 bast80 c7x9g0 bast80 c7x9g0 bast80 c8a840
    bafuk0 c8a840 bafuk0 c8a840 bast80 c7x9g0 bast80 c7x9g0 bast80;2007 c3.2.0/7200
    b11.1.0/7200"),
  ("America/Chihuahua",
    "-25460 -25200 -21600 -21600d -18000d;b3fsj3w0 c2u5s00 b1si580 d8jhg0 b7x3w0 c9eys0
    exes2s0 cafuk0 e8a840 cafuk0 d8aaw0 bafuk0 d8a840 bast80 d7x9g0 bast80 d9q2s0 b7k580
    d9q2s0 bafuk0 d8a840 bafuk0 d8a840 bast80 d7x9g0 bast80 d7x9g0 bast80 d7x9g0 bast80
    d8a840 bafuk0 d8a840 bafuk0 d8a840 bast80 d7x9g0 bast80 d7x9g0 bast80 d8a840 bafuk0
    d8a840 bafuk0 d8a840 bafuk0 d8a840 bast80 d7x9g0 bast80 d7x9g0 bast80 d8a840 bafuk0
    d8a840 bafuk0 d8a840 bast80 d7x9g0 cast80;"),
  ("America/Ciudad_Juarez",
    "-25556 -25200 -21600 -21600d -18000d;b3fsj3w0 c2u5s00 b1si580 d8jhg0 b7x3w0 c9eys0
    exes2s0 cafuk0 e8a840 cafuk0 d8aaw0 bafuk0 d8a840 bast80 d7x9g0 bast80 d9q2s0 b7k580
    d9q2s0 bafuk0 d8a840 bafuk0 d8a840 bast80 d7x9g0 bast80 d7x9g0 bast80 d7x9g0 bast80
    d8a840 bafuk0 d8a840 bafuk0 d77c40 bc8nw0 d6hes0 bc8nw0 d6hes0 bc8nw0 d6hes0 bc8nw0
    d6hes0 bc8nw0 d6hes0 bc8nw0 d6udg0 bc8nw0 d6hes0 bc8nw0 d6hes0 bc8nw0 d6hes0 bc8nw0
    d6hes0 bc8nw0 d6udg0 bc8nw0 d6hes0 cbvp80 b1l940;2023 d3.2.0/7200 b11.1.0/7200"),
  ("America/Costa_Rica",
    "-20173 -21600 -18000d;b3fah00d cubtl3n b51ek0 cdoo40 b51ek0 c5jso40 b8drw0 cacas0 b2xh80;"),
  ("America/Coyhaique",
    "-17296 -16965 -18000 -14400 -14400d -10800d -10800;b2z3ccgg cag6l2t b3dlssr d157b79
    bf4e0r e49hzb9 caye0r e7ves0 cawik0 e7ves0 cawik0 e7ves0 cawik0 e7ves0 cayd80 d7ves0
    c534ik0 d351g0 e24lbw0 cb25c0 d2mg00 fb73400 d7k580 fc8tg0 d6h980 fa31g0 d7x3w0 fasys0
    d7x3w0 fb5xg0 d7k580 fag040 d8a2k0 fb5xg0 d7k580 fb5xg0 d7x3w0 fasys0 d7x3w0 fasys0
    d7x3w0 fb5xg0 d7k580 fb5xg0 d7k580 fb5xg0 d7x3w0 fasys0 d7x3w0 fasys0 d7x3w0 fasys0
    d7x3w0 fb5xg0 d7k580 fb5xg0 d7k580 fb5xg0 d9cyk0 f9d440 d7x3w0 fasys0 d7x3w0 fb5xg0
    d7k580 f9q2s0 d8zzw0 fb5xg0 d7x3w0 fasys0 d7x3w0 fasys0 d7x3w0 fasys0 d7x3w0 fb5xg0
    d7k580 fb5xg0 d8n180 fa31g0 d7x3w0 fa31g0 d9px80 f9q2s0 d7x3w0 fb5xg0 d7k580 fb5xg0
    d7k580 fb5xg0 d7k580 fb5xg0 d7x3w0 fasys0 d7x3w0 fasys0 d7x3w0 fb5xg0 d7k580 fb5xg0
    d8n180 fa31g0 d7x3w0 fasys0 d8zzw0 f9q2s0 dast80 f5eis0 dcyl80 f6hes0 dc8nw0 f6udg0
    dbvp80 f6udg0 dvonw0 f4olg0 de1h80 f4olg0 de1h80 f4olg0 dc8nw0 f7x9g0 dast80 f7x9g0
    dast80 f7x9g0 dast80 f8a840 dafuk0 f7x9g0 db5rw0 f7x9g0 g9xbw0;"),
  ("America/Cuiaba",
    "-13460 -14400 -10800d;b3bm7qtw c99k9y4 b9a9c0 c9io40 b99980 c8p65g0 b6zuo0 cbs2o0 b67zw0
    ccjxg0 b69uk0 ccjxg0 b4ml80 c5mf440 b49mk0 chaas0 b316k0 ccls40 b4ml80 ccls40 b66580
    ccls40 b67zw0 c981s40 b6u7w0 cbiw40 b5rbw0 cd0lg0 b5ed80 ccyqs0 b5ed80 cdbpg0 b64ak0
    ccyqs0 b64ak0 ccls40 b5rbw0 cdbpg0 b51ek0 cdbpg0 b6h980 cc8tg0 b6h980 cc8tg0 b64ak0
    cc8tg0 b6u7w0 cbxpg0 b7iak0 cbiw40 b6u7w0 cbiw40 b7k580 cbiw40 b6u7w0 cc8tg0 b6h980
    cdbpg0 b5ed80 cw5hg0 b5nmk0 cc8tg0 b6h980 cdbpg0 b5rbw0 cbvus0 b6h980 ccls40 b64ak0
    ccls40 b6h980 cc8tg0 b6h980 cc8tg0 b6u7w0 cc8tg0 b64ak0 ccls40 b64ak0 ccls40 b6h980
    cc8tg0 b6h980 cc8tg0 b6h980 cc8tg0 b6h980 cdbpg0 b5ed80;"),
  ("America/Danmarkshavn",
    "-4480 -10800 -7200d 0;b3cyifwg cx8nx3k b8zrk0 c9d1c0 b9d1c0 c9d1c0 b9d1c0 c9d1c0 b9d1c0
    c9d1c0 b9q000 c9d1c0 b9d1c0 c9d1c0 b9d1c0 c9d1c0 b9d1c0 c9d1c0 b9d1c0 c9d1c0 b9d1c0
    c9d1c0 b9q000 c9d1c0 b9d1c0 c9d1c0 b9d1c0 c9d1c0 b9d1c0 c9d1c0 b9d1c0 c9d1c0 b9d1c0
    d53hk0;"),
  ("America/Dawson",
    "-33460 -32400 -28800d -25200d -28800 -25200;b34n3flg c97l62k ba2vw0 casys0 b882c0
    cbmiwc0 b1wd180 da7n3w0 b9q000 e465k00 d3e2is0 e9cyk0 d9d440 e9cyk0 d9d440 e9px80 d905g0
    e9px80 d9d440 e9cyk0 d9d440 e9cyk0 d9d440 e9cyk0 d8a840 eafuk0 d8a840 east80 d7x9g0
    east80 d7x9g0 east80 d8a840 eafuk0 d8a840 eafuk0 d8a840 east80 d7x9g0 east80 d7x9g0
    east80 d8a840 eafuk0 d8a840 eafuk0 d8a840 eafuk0 d8a840 east80 d7x9g0 east80 d7x9g0
    east80 d8a840 eafuk0 d8a840 eafuk0 d8a840 east80 d7x9g0 east80 d7x9g0 east80 d6udg0
    ec8nw0 d6hes0 ec8nw0 d6hes0 ec8nw0 d6udg0 ec8nw0 d6hes0 ec8nw0 d6hes0 ec8nw0 d6hes0
    ec8nw0 d6hes0 ec8nw0 d6hes0 ec8nw0 d6udg0 ec8nw0 d6hes0 ec8nw0 d6hes0 ec8nw0 d6hes0
    ec8nw0 d6hes0 fc8ic0;"),
  ("America/Dawson_Creek",
    "-28856 -28800 -25200d -25200;b2vylc1k chw36ug ba2vw0 cc5jxg0 b1wd180 ctj1g0 b7x3w0
    casys0 b7x3w0 casys0 b7x3w0 cb5xg0 b7k580 cb5xg0 b7x3w0 casys0 b7x3w0 casys0 b7x3w0
    casys0 b7x3w0 casys0 b7x3w0 cb5xg0 b7x3w0 casys0 b7x3w0 casys0 b7x3w0 casys0 b7x3w0
    casys0 b7x3w0 cb5xg0 b7k580 cb5xg0 b9cyk0 c9d440 b9cyk0 c9d440 b9cyk0 c9d440 b9px80
    c905g0 b9px80 c9d440 b9cyk0 c9d440 b9cyk0 c9d440 b9cyk0 c9d440 b9cyk0 c9d440 b9px80
    c9d440 d69uk0;"),
  ("America/Denver",
    "-25196 -25200 -21600d;b2vwcp80 chxltk0 bast80 c7x9g0 bast80 c7x9g0 bb5rw0 c7kas0 b2vmk0
    cataw40 b1wd180 ca7n9g0 b9px80 c905g0 b9px80 c9d440 b9cyk0 c9d440 b9cyk0 c9d440 b9cyk0
    c9d440 b9cyk0 c9d440 b9px80 c9d440 b9cyk0 c9d440 b9cyk0 c3lpg0 bf4d80 c64g40 bclmk0
    c9d440 b9px80 c905g0 b9px80 c9d440 b9cyk0 c9d440 b9cyk0 c9d440 b9cyk0 c9d440 b9cyk0
    c9d440 b9px80 c905g0 b9px80 c9d440 b9cyk0 c9d440 b9cyk0 c9d440 b9cyk0 c8a840 bafuk0
    c8a840 bast80 c7x9g0 bast80 c7x9g0 bast80 c8a840 bafuk0 c8a840 bafuk0 c8a840 bast80
    c7x9g0 bast80 c7x9g0 bast80 c8a840 bafuk0 c8a840 bafuk0 c8a840 bafuk0 c8a840 bast80
    c7x9g0 bast80 c7x9g0 bast80 c8a840 bafuk0 c8a840 bafuk0 c8a840 bast80 c7x9g0 bast80
    c7x9g0 bast80;2007 c3.2.0/7200 b11.1.0/7200"),
  ("America/Detroit",
    "-19931 -21600 -18000 -14400d;b36x4uhn c5eraud ddyeyk0 c1wd180 d1c9440 c7x3w0 d9rlbxo
    c71s2c d9d440 c9cyk0 d2cmdg0 c9cyk0 d3lpg0 cf4d80 d9d440 c9cyk0 d9d440 c9px80 d905g0
    c9px80 d9d440 c9cyk0 d9d440 c9cyk0 d9d440 c9cyk0 d9d440 c9cyk0 d9d440 c9px80 d905g0
    c9px80 d9d440 c9cyk0 d9d440 c9cyk0 d9d440 c9cyk0 d8a840 cafuk0 d8a840 cast80 d7x9g0
    cast80 d7x9g0 cast80 d8a840 cafuk0 d8a840 cafuk0 d8a840 cast80 d7x9g0 cast80 d7x9g0
    cast80 d8a840 cafuk0 d8a840 cafuk0 d8a840 cafuk0 d8a840 cast80 d7x9g0 cast80 d7x9g0
    cast80 d8a840 cafuk0 d8a840 cafuk0 d8a840 cast80 d7x9g0 cast80 d7x9g0 cast80;2007
    d3.2.0/7200 c11.1.0/7200"),
  ("America/Edmonton",
    "-27232 -25200 -21600d;b37sexgg c629ink ba2vw0 c8n6s0 b29ek0 ch6lg0 b9px80 c905g0 b7x3w0
    cb5xg0 b7k580 cb5xg0 b7x3w0 c9l0g40 b1wd180 ctj1g0 b7x3w0 cctzk40 b9cyk0 c9d440 b9cyk0
    c9d440 b9cyk0 c9d440 b9cyk0 c9d440 b9px80 c905g0 b9px80 c9d440 b9cyk0 c9d440 b9cyk0
    c9d440 b9cyk0 c9d440 b9cyk0 c9d440 b9px80 c905g0 b9px80 c9d440 b9cyk0 c9d440 b9cyk0
    c9d440 b9cyk0 c8a840 bafuk0 c8a840 bast80 c7x9g0 bast80 c7x9g0 bast80 c8a840 bafuk0
    c8a840 bafuk0 c8a840 bast80 c7x9g0 bast80 c7x9g0 bast80 c8a840 bafuk0 c8a840 bafuk0
    c8a840 bafuk0 c8a840 bast80 c7x9g0 bast80 c7x9g0 bast80 c8a840 bafuk0 c8a840 bafuk0
    c8a840 bast80 c7x9g0 bast80 c7x9g0 bast80;2007 c3.2.0/7200 b11.1.0/7200"),
  ("America/Eirunepe",
    "-16768 -18000 -14400d -14400;b3bm7tds c99ka68 b9a9c0 c9io40 b99980 c8p65g0 b6zuo0 cbs2o0
    b67zw0 ccjxg0 b69uk0 ccjxg0 b4ml80 c5mf440 b49mk0 chaas0 b316k0 ccls40 b4ml80 ccls40
    b66580 ccls40 b67zw0 c981s40 b6u7w0 cbiw40 b5rbw0 cd0lg0 b5ed80 c2yy2s0 b6h980 d7hg2s0
    b2t2t80;"),
  ("America/El_Salvador",
    "-21408 -21600 -18000d;b3f9r3mo cymao5c b7k580 cb5xg0 b7k580;"),
  ("America/Fort_Nelson",
    "-29447 -28800 -25200d -25200;b2vylchz chw36e1 ba2vw0 cc5jxg0 b1wd180 ctj1g0 b7x3w0
    casys0 b7x3w0 casys0 b7x3w0 cb5xg0 b7k580 cb5xg0 b7x3w0 casys0 b7x3w0 casys0 b7x3w0
    casys0 b7x3w0 casys0 b7x3w0 cb5xg0 b7x3w0 casys0 b7x3w0 casys0 b7x3w0 casys0 b7x3w0
    casys0 b7x3w0 cb5xg0 b7k580 cb5xg0 b9cyk0 c9d440 b9cyk0 c9d440 b9cyk0 c9d440 b9px80
    c905g0 b9px80 c9d440 b9cyk0 c9d440 b9cyk0 c9d440 b9cyk0 c9d440 b9cyk0 c9d440 b9px80
    c9d440 b9cyk0 c9d440 b9cyk0 c9d440 b9cyk0 c9d440 b9cyk0 c9d440 b9px80 c905g0 b9px80
    c9d440 b9cyk0 c9d440 b9cyk0 c9d440 b9cyk0 c9d440 b9cyk0 c9d440 b9px80 c905g0 b9px80
    c9d440 b9cyk0 c9d440 b9cyk0 c9d440 b9cyk0 c8a840 bafuk0 c8a840 bast80 c7x9g0 bast80
    c7x9g0 bast80 c8a840 bafuk0 c8a840 bafuk0 c8a840 bast80 c7x9g0 bast80 c7x9g0 bast80
    c8a840 bafuk0 c8a840 bafuk0 c8a840 bafuk0 c8a840 bast80 c7x9g0 bast80 c7x9g0 bast80
    c8a840 bafuk0 c8a840 bafuk0 c8a840 bast80 c7x9g0 bast80 c7x9g0 bast80 c6udg0 bc8nw0
    c6hes0 bc8nw0 c6hes0 bc8nw0 c6udg0 bc8nw0 c6hes0 bc8nw0 c6hes0 bc8nw0 c6hes0 bc8nw0
    c6hes0 bc8nw0 d6hes0;"),
  ("America/Fortaleza",
    "-9240 -10800 -7200d;b3bm7nko c99kafc b9a9c0 c9io40 b99980 c8p65g0 b6zuo0 cbs2o0 b67zw0
    ccjxg0 b69uk0 ccjxg0 b4ml80 c5mf440 b49mk0 chaas0 b316k0 ccls40 b4ml80 ccls40 b66580
    ccls40 b67zw0 c981s40 b6u7w0 cbiw40 b5rbw0 cd0lg0 b5ed80 ccyqs0 b5ed80 cdbpg0 b64ak0
    c514g40 b7k580 cbiw40 bpuk0 cid6s0 b6h980;"),
  ("America/Glace_Bay",
    "-14388 -14400 -10800d;b35l8njo c89fk8c ba2vw0 cc5jxg0 b1wd180 c3y8g40 b7x3w0 c9pa5g0
    b9cyk0 c9d440 b9cyk0 c9d440 b9cyk0 c9d440 b9cyk0 c9d440 b9px80 c905g0 b9px80 c9d440
    b9cyk0 c9d440 b9cyk0 c9d440 b9cyk0 c9d440 b9cyk0 c9d440 b9px80 c905g0 b9px80 c9d440
    b9cyk0 c9d440 b9cyk0 c9d440 b9cyk0 c8a840 bafuk0 c8a840 bast80 c7x9g0 bast80 c7x9g0
    bast80 c8a840 bafuk0 c8a840 bafuk0 c8a840 bast80 c7x9g0 bast80 c7x9g0 bast80 c8a840
    bafuk0 c8a840 bafuk0 c8a840 bafuk0 c8a840 bast80 c7x9g0 bast80 c7x9g0 bast80 c8a840
    bafuk0 c8a840 bafuk0 c8a840 bast80 c7x9g0 bast80 c7x9g0 bast80;2007 c3.2.0/7200
    b11.1.0/7200"),
  ("America/Goose_Bay",
    "-14500 -12652 -9052d -12600 -9000d -14400 -10800d -7200d;b2vyl0ys chw35go ba2vw0 d8kjbw0
    ekzjyk d7k580 eb5xg0 d7k580 eb5xg0 d7k580 ebiw40 d776k0 ebiw40 d7k580 eb5xg0 d7k580
    eb5xg0 d1roo40 ebiw40 d7k580 eb5xg0 d7k580 eb5xg0 d7k580 eb5xg0 d7k580 ebiw40 d7k580
    eag040 d7x3w0 easys0 d7x3w0 easys0 d7x3w0 easys0 d7x3w0 easys0 d7x3w0 eb5xg0 d7x3w0
    easys0 d7x3w0 easys0 d7x3w0 easys0 d7x3w0 easys0 d9px80 e9d440 d9cyk0 e9d440 d9cyk0
    e9d440 d9cyk0 e9d440 d9cyk0 e9d440 d9px80 f6y2s0 g22420 f9px80 g9d440 f9cyk0 g9d440
    f9cyk0 g9d440 f9cyk0 g9d440 f9cyk0 g9d440 f9px80 g9d440 f9cyk0 g9d440 f9cyk0 g9d440
    f9cyk0 g9d440 f9cyk0 g9d440 f9px80 g905g0 f9px80 g9d440 f9cyk0 g9d440 f9cyk0 g9d440
    f9cyk0 g9d440 f9cyk0 g9d440 f9px80 g905g0 f9px80 g9d440 f9cyk0 g9d440 f9cyk0 g9d440
    f9cyk0 g8a2lo fafuk0 h8a840 fasqg0 g7xc80 fast80 g7x9g0 fast80 g8a840 fafuk0 g8a840
    fafuk0 g8a840 fast80 g7x9g0 fast80 g7x9g0 fast80 g8a840 fafuk0 g8a840 fafuk0 g8a840
    fafuk0 g8a840 fast80 g7x9g0 fast80 g7x9g0 fast80 g8a840 fafuk0 g8a840 fafuk0 g8a840
    fast80 g7x9g0 fast80 g7x9g0 fast80 g6udg0 fc8nw0 g6hes0 fc8nw0 g6hes0 fc8nw0 g6udg0
    fc8nw0 g6hes0 fc8tec;2012 g3.2.0/7200 f11.1.0/7200"),
  ("America/Grand_Turk",
    "-17072 -18430 -18000 -14400d -14400;b2z3cca8 cbiv7pq dz3brw2 c9cyk0 d9d440 c9cyk0 d9d440
    c9cyk0 d9d440 c9px80 d905g0 c9px80 d9d440 c9cyk0 d9d440 c9cyk0 d9d440 c9cyk0 d8a840
    cafuk0 d8a840 cast80 d7x9g0 cast80 d7x9g0 cast80 d8a840 cafuk0 d8a840 cafuk0 d8a840
    cast80 d7x9g0 cast80 d7x9g0 cast80 d8a840 cafuk0 d8a840 cafuk0 d8a840 cafuk0 d8a840
    cast80 d7x9g0 cast80 d7x9g0 cast80 d8a840 cafuk0 d8a840 cafuk0 d8a840 cast80 d7x9g0
    cast80 d7x9g0 cast80 d6udg0 cc8nw0 d6hes0 cc8nw0 d6hes0 cc8nw0 d6udg0 cc8nw0 d6hes0
    cc8nw0 d6hes0 cc8nw0 d6hes0 cc8nw0 d6hes0 cc8nw0 e6hes0;2018 d3.2.0/7200 c11.1.0/7200"),
  ("America/Guatemala",
    "-21724 -21600 -18000d;b3e3mfvg css0akk b4ofw0 c4tidg0 b6djw0 c3wwas0 b8n180 c7n5ms0
    b7x3w0;"),
  ("America/Guayaquil",
    "-19160 -18840 -18000 -14400d;b2z3cdw8 cle9mf4 dwb620o c3jp80;"),
  ("America/Guyana",
    "-13959 -14400 -13500 -10800;b3acqpvr c1va8c9 dvj6nb0 b8p0jd0;"),
  ("America/Halifax",
    "-15264 -14400 -10800d;b35l8o80 c777go0 b9et80 cst9o0 ba2vw0 cssyk0 b5rbw0 ccv1g0 b69uk0
    cc6ys0 b6kyk0 cci2s0 b67zw0 cci2s0 b6w2k0 cbu040 b7lzw0 cbu040 b66580 cbu040 b7lzw0
    cbu040 b64ak0 ccls40 b5v180 ccv1g0 b6j3w0 cc6ys0 b79180 cb42s0 b7lzw0 cb42s0 b7yyk0
    cbu040 b64ak0 cdbpg0 b66580 ccls40 b5ed80 cbu040 b7lzw0 cb42s0 b7lzw0 ccjxg0 b66580
    cbh1g0 b7lzw0 cb42s0 b7lzw0 c6uj00 b1wd180 casys0 b7x3w0 casys0 b7x3w0 casys0 b7x3w0
    casys0 b7x3w0 ctw040 b7x3w0 casys0 b7x3w0 casys0 b7x3w0 casys0 b7x3w0 ctw040 b7x3w0
    casys0 b7x3w0 casys0 b7x3w0 casys0 b7x3w0 c1cm2s0 b9cyk0 c9d440 b9cyk0 c9d440 b9cyk0
    c9d440 b9px80 c905g0 b9px80 c9d440 b9cyk0 c9d440 b9cyk0 c9d440 b9cyk0 c9d440 b9cyk0
    c9d440 b9px80 c9d440 b9cyk0 c9d440 b9cyk0 c9d440 b9cyk0 c9d440 b9cyk0 c9d440 b9px80
    c905g0 b9px80 c9d440 b9cyk0 c9d440 b9cyk0 c9d440 b9cyk0 c9d440 b9cyk0 c9d440 b9px80
    c905g0 b9px80 c9d440 b9cyk0 c9d440 b9cyk0 c9d440 b9cyk0 c8a840 bafuk0 c8a840 bast80
    c7x9g0 bast80 c7x9g0 bast80 c8a840 bafuk0 c8a840 bafuk0 c8a840 bast80 c7x9g0 bast80
    c7x9g0 bast80 c8a840 bafuk0 c8a840 bafuk0 c8a840 bafuk0 c8a840 bast80 c7x9g0 bast80
    c7x9g0 bast80 c8a840 bafuk0 c8a840 bafuk0 c8a840 bast80 c7x9g0 bast80 c7x9g0 bast80;2007
    c3.2.0/7200 b11.1.0/7200"),
  ("America/Havana",
    "-19768 -19776 -18000 -14400d;b2z3ced4 cijto08 d1icfyo c69uk0 d62s040 c4ofw0 de1ms0
    c51ek0 de1ms0 c4ofw0 d1fhs40 c4ofw0 de1ms0 c4ofw0 d9s9k40 c67zw0 dcedg0 c6h980 d9o840
    c7yyk0 db5xg0 c7k580 dbvus0 c9cyk0 d9d440 c9cyk0 d9d440 c9px80 d9d440 c8a2k0 dag040
    c8bx80 dae5g0 c8drw0 dacas0 c9cyk0 d9d440 c9px80 d905g0 c9px80 d9q2s0 c7x3w0 d8a840
    cast80 d7x9g0 cast80 dasys0 c7x3w0 dasys0 c7x3w0 dasys0 c7x3w0 dasys0 c8a2k0 dag040
    c8a2k0 d7x9g0 cast80 d7x9g0 cast80 d8a840 cafuk0 d8a840 cafuk0 d905g0 ca2vw0 d905g0
    c9q000 d902o0 c9q000 d902o0 c9q000 d902o0 c9q000 d902o0 c9q000 d9d1c0 c9d1c0 d9d1c0
    c9q000 d8n400 casw00 d7x6o0 cb5uo0 d7x6o0 casw00 d7x6o0 casw00 d8a5c0 cafxc0 d8a5c0
    cafxc0 d7x6o0 c1cm000 d6uao0 cbvs00 d779c0 cbitc0 d6uao0 cbvs00 d779c0 cbvs00 d779c0
    cc8qo0 d779c0 cb5uo0;2013 d3.2.0/0 c11.1.0/3600"),
  ("America/Hermosillo",
    "-26632 -25200 -21600 -21600d;b3fsj3w0 c2u5s00 b1si580 d8jhg0 b7x3w0 c9eys0 b591h80
    ds5qoc0 bafuk0 d8a840 bafuk0 d8a840 bafuk0;"),
  ("America/Indiana/Indianapolis",
    "-20678 -21600 -18000d -18000 -14400d;b2vwcmg0 chxltk0 bast80 c7x9g0 bast80 cbaw840
    b51ek0 c6w840 b1wd180 casys0 b7x3w0 casys0 b7x3w0 casys0 b7x3w0 casys0 b7x3w0 cb5xg0
    b7k580 cb5xg0 b7x3w0 casys0 b7x3w0 casys0 b7x3w0 casys0 b7x3w0 dasys0 b19q7w0 dasys0
    e5qonw0 d9cyk0 e9d440 d9cyk0 eihslg0 dast80;2007 e3.2.0/7200 d11.1.0/7200"),
  ("America/Indiana/Knox",
    "-20790 -21600 -18000d -18000;b2vwcmg0 chxltk0 bast80 c7x9g0 bast80 cbmtus0 b1wd180
    ctj1g0 b7x3w0 casys0 b7x3w0 casys0 b7x3w0 cb5xg0 b7k580 cb5xg0 b7x3w0 casys0 b7x3w0
    casys0 b7x3w0 casys0 b7x3w0 casys0 b9px80 c9d440 b9cyk0 c9d440 b7x3w0 casys0 b7x3w0
    casys0 b9cyk0 c9d440 b9px80 c9d440 b9cyk0 d9d440 bs3180 c1twas0 b9cyk0 c9d440 b9cyk0
    c9d440 b9cyk0 c9d440 b9cyk0 c9d440 b9px80 c9d440 b9cyk0 c9d440 b9cyk0 c3lpg0 bf4d80
    c64g40 bclmk0 c9d440 b9px80 c905g0 b9px80 c9d440 b9cyk0 c9d440 b9cyk0 c9d440 b9cyk0
    c9d440 b9cyk0 c9d440 b9px80 c905g0 b9px80 c9d440 b9cyk0 c9d440 b9cyk0 c9d440 b9cyk0
    c8a840 bafuk0 c8a840 bast80 c7x9g0 bast80 c7x9g0 bast80 c8a840 dafuk0 c7j5400 basw00;2007
    c3.2.0/7200 b11.1.0/7200"),
  ("America/Indiana/Marengo",
    "-20723 -21600 -18000d -18000 -14400d;b2vwcmg0 chxltk0 bast80 c7x9g0 bast80 cbmtus0
    b1wd180 c2wsas0 b7x3w0 c1c9440 b7x3w0 casys0 b7x3w0 cb5xg0 b7x3w0 casys0 b7x3w0 casys0
    b7x3w0 casys0 b7x3w0 casys0 b7x3w0 db5xg0 e465h80 d9cyk0 e9d440 d9cyk0 e9d440 d9px80
    e9d440 d9cyk0 e9d440 d9cyk0 c3lpg0 df4g00 e64dc0 dclmk0 efvt9g0 dast80;2007 e3.2.0/7200
    d11.1.0/7200"),
  ("America/Indiana/Petersburg",
    "-20947 -21600 -18000d -18000 -14400d;b2vwcmg0 chxltk0 bast80 c7x9g0 bast80 cbmtus0
    b1wd180 c501ek0 b7kas0 cb5xg0 b7x3w0 casys0 b7x3w0 casys0 b7x3w0 casys0 b7x3w0 casys0
    b7x3w0 cb5xg0 b9cyk0 c9d440 b9cyk0 c9d440 b9cyk0 c9d440 b9cyk0 d9d440 bsfzw0 c9d440
    b9cyk0 c9d440 b9cyk0 c9d440 b9cyk0 c9d440 b9cyk0 c9d440 b9px80 c9d440 b9cyk0 c9d440
    b9cyk0 c3lpg0 bf4d80 c64g40 bclmk0 c9d440 b9px80 c905g0 d9px80 ceu02o0 basw00 c6udg0
    dc8nw0;2008 e3.2.0/7200 d11.1.0/7200"),
  ("America/Indiana/Tell_City",
    "-20823 -21600 -18000d -18000 -14400d;b2vwcmg0 chxltk0 bast80 c7x9g0 bast80 cbmtus0
    b1wd180 c501ek0 b7kas0 cb5xg0 b7x3w0 casys0 b7x3w0 casys0 b7x3w0 casys0 b7x3w0 casys0
    b7x3w0 cb5xg0 b9cyk0 c9d440 b9cyk0 c9d440 b9cyk0 d9d440 b1tw580 c9d440 b9cyk0 e9d440
    d9cvs0 e9d440 d9cyk0 cihslg0 basw00;2007 c3.2.0/7200 b11.1.0/7200"),
  ("America/Indiana/Vevay",
    "-20416 -21600 -18000d -18000 -14400d;b2vwcmg0 chxltk0 bast80 c7x9g0 bast80 cbmtus0
    b1wd180 d4gyis0 e7txx80 d9cyk0 e9d440 d9cyk0 e9d440 d9px80 e9d440 d9cyk0 ehfzhg0
    dast80;2007 e3.2.0/7200 d11.1.0/7200"),
  ("America/Indiana/Vincennes",
    "-21007 -21600 -18000d -18000 -14400d;b2vwcmg0 chxltk0 bast80 c7x9g0 bast80 cbmtus0
    b1wd180 casys0 b7x3w0 c3fidg0 b7x3w0 casys0 b7x3w0 cb5rw0 b7kas0 cb5xg0 b7x3w0 casys0
    b7x3w0 casys0 b7x3w0 casys0 b7x3w0 casys0 b9px80 c9d440 b7k580 cb5xg0 b9cyk0 c9d440
    b9cyk0 d9d440 e2lz980 d9cyk0 e9d440 d9cyk0 cihslg0 basw00 c6udg0 dc8nw0;2008 e3.2.0/7200
    d11.1.0/7200"),
  ("America/Indiana/Winamac",
    "-20785 -21600 -18000d -18000 -14400d;b2vwcmg0 chxltk0 bast80 c7x9g0 bast80 cbmtus0
    b1wd180 casys0 b7x3w0 casys0 b7x3w0 casys0 b7x3w0 casys0 b7x3w0 cb5xg0 b7k580 cb5xg0
    b7x3w0 casys0 b7x3w0 casys0 b7x3w0 casys0 b7x3w0 casys0 b9px80 c9d440 b9cyk0 c9d440
    b7x3w0 casys0 b7x3w0 casys0 b7x3w0 casys0 b7x3w0 db5xg0 e465h80 d9cyk0 e9d440 d9cyk0
    cihslg0 basw00 e6udg0 dc8l40;2008 e3.2.0/7200 d11.1.0/7200"),
  ("America/Inuvik",
    "0 -28800 -25200d -21600d -25200;b3vyz340 ca34zs0 b9cyk0 c9d440 b9cyk0 c9d440 b9cyk0
    c9d440 b9cyk0 c9d440 b9px80 c905g0 b9px80 c9d440 b9cyk0 d9d440 e9cvs0 d9d440 e9cyk0
    d9d440 e9cyk0 d9d440 e9px80 d905g0 e9px80 d9d440 e9cyk0 d9d440 e9cyk0 d9d440 e9cyk0
    d8a840 eafuk0 d8a840 east80 d7x9g0 east80 d7x9g0 east80 d8a840 eafuk0 d8a840 eafuk0
    d8a840 east80 d7x9g0 east80 d7x9g0 east80 d8a840 eafuk0 d8a840 eafuk0 d8a840 eafuk0
    d8a840 east80 d7x9g0 east80 d7x9g0 east80 d8a840 eafuk0 d8a840 eafuk0 d8a840 east80
    d7x9g0 east80 d7x9g0 east80;2007 d3.2.0/7200 e11.1.0/7200"),
  ("America/Iqaluit",
    "0 -14400d -18000 -21600 -18000d;b3qj6xs0 c1nh7c0 bdvfpg0 c9cyk0 b9d440 c9cyk0 b9d440
    c9cyk0 b9d440 c9cyk0 b9d440 c9px80 b905g0 c9px80 b9d440 c9cyk0 b9d440 c9cyk0 b9d440
    c9cyk0 b9d440 c9cyk0 b9d440 c9px80 b905g0 c9px80 b9d440 c9cyk0 b9d440 c9cyk0 b9d440
    c9cyk0 b8a840 cafuk0 b8a840 cast80 b7x9g0 cast80 b7x9g0 cast80 b8a840 cafuk0 b8a840
    cafuk0 b8a840 cast80 b7x9g0 cast80 b7x9g0 cast80 b8a840 cafuk0 b8a840 cafuk0 b8a840
    cafuk0 b8a840 dast80 e7xc80 cast80 b7x6o0 cast80 b8a840 cafuk0 b8a840 cafuk0 b8a840
    cast80 b7x9g0 cast80 b7x9g0 cast80;2007 b3.2.0/7200 c11.1.0/7200"),
  ("America/Jamaica",
    "-18430 -18000 -14400d;b3am7jzy cwbl182 bf4d80 c64g40 bclmk0 c9d440 b9px80 c905g0 b9px80
    c9d440 b9cyk0 c9d440 b9cyk0 c9d440 b9cyk0 c9d440 b9cyk0 c9d440 b9px80 c905g0 b9px80;"),
  ("America/Juneau",
    "54139 -32261 -28800 -25200d -28800d -32400;b2ni5hw1 ch4yu44 dln707v c1wd180 dcawis0
    c9cyk0 d9d440 c9cyk0 d9d440 c9px80 d9d440 c9cyk0 d9d440 c9cyk0 d3lpg0 cf4d80 d64g40
    cclmk0 d9d440 c9px80 d905g0 c9px80 d9d440 c9cyk0 d9d440 c9cyk0 e9d440 c9d1c0 d9d1c0
    c9cyk0 d9d440 c9px80 d905g0 f9px80 e9d6w0 f9cyk0 e9d440 f9cyk0 e9d440 f9cyk0 e8a840
    fafuk0 e8a840 fast80 e7x9g0 fast80 e7x9g0 fast80 e8a840 fafuk0 e8a840 fafuk0 e8a840
    fast80 e7x9g0 fast80 e7x9g0 fast80 e8a840 fafuk0 e8a840 fafuk0 e8a840 fafuk0 e8a840
    fast80 e7x9g0 fast80 e7x9g0 fast80 e8a840 fafuk0 e8a840 fafuk0 e8a840 fast80 e7x9g0
    fast80 e7x9g0 fast80;2007 e3.2.0/7200 f11.1.0/7200"),
  ("America/Kentucky/Louisville",
    "-20582 -21600 -18000d -18000 -14400d;b2vwcmg0 chxltk0 bast80 c7x9g0 bast80 csg5g0 b6bp80
    ca98o40 b7x3w0 c6w840 b1wd180 cast9o b1sw2c c21gis0 b7k580 cb5xg0 b7x3w0 casys0 b7x3w0
    casys0 b7x3w0 casys0 b7x3w0 casys0 b7x3w0 cb5xg0 b9cyk0 c9d440 b9cyk0 c9d440 b9cyk0
    c9d440 b9cyk0 c9d440 b9px80 c9d440 d4bh80 e3j3xc0 d9cyk0 e9d440 d9cyk0 e9d440 d9cyk0
    e9d440 d9px80 e9d440 d9cyk0 e9d440 d9cyk0 c3lpg0 df4g00 e64dc0 dclmk0 e9d440 d9px80
    e905g0 d9px80 e9d440 d9cyk0 e9d440 d9cyk0 e9d440 d9cyk0 e9d440 d9cyk0 e9d440 d9px80
    e905g0 d9px80 e9d440 d9cyk0 e9d440 d9cyk0 e9d440 d9cyk0 e8a840 dafuk0 e8a840 dast80
    e7x9g0 dast80 e7x9g0 dast80 e8a840 dafuk0 e8a840 dafuk0 e8a840 dast80 e7x9g0 dast80
    e7x9g0 dast80 e8a840 dafuk0 e8a840 dafuk0 e8a840 dafuk0 e8a840 dast80 e7x9g0 dast80
    e7x9g0 dast80 e8a840 dafuk0 e8a840 dafuk0 e8a840 dast80 e7x9g0 dast80 e7x9g0 dast80;2007
    e3.2.0/7200 d11.1.0/7200"),
  ("America/Kentucky/Monticello",
    "-20364 -21600 -18000d -18000 -14400d;b2vwcmg0 chxltk0 bast80 c7x9g0 bast80 cbmtus0
    b1wd180 cbs6g40 b9cyk0 c9d440 b9cyk0 c9d440 b9cyk0 c9d440 b9px80 c9d440 b9cyk0 c9d440
    b9cyk0 c3lpg0 bf4d80 c64g40 bclmk0 c9d440 b9px80 c905g0 b9px80 c9d440 b9cyk0 c9d440
    b9cyk0 c9d440 b9cyk0 c9d440 b9cyk0 c9d440 b9px80 c905g0 b9px80 c9d440 b9cyk0 c9d440
    b9cyk0 c9d440 b9cyk0 c8a840 bafuk0 c8a840 bast80 c7x9g0 bast80 c7x9g0 bast80 c8a840
    bafuk0 c8a840 bafuk0 c8a840 bast80 c7x9g0 bast80 c7x9g0 bast80 c8a840 bafuk0 c8a840
    bafuk0 c8a840 bafuk0 c8a840 bast80 c7x9g0 dast80 e7x6o0 dast80 e8a840 dafuk0 e8a840
    dafuk0 e8a840 dast80 e7x9g0 dast80 e7x9g0 dast80;2007 e3.2.0/7200 d11.1.0/7200"),
  ("America/La_Paz",
    "-16356 -12756d -14400;b3kwdfqc c84ik0;"),
  ("America/Lima",
    "-18492 -18516 -18000 -14400d;b2z3cddo c9ov9co dfcxjlo c4ml80 d93us0 c9cyk0 d9d440 c9cyk0
    dnw16s0 c4ml80 de5c40 c4ml80 d1fr1g0 c4ml80 d1yiys0 c4ml80;"),
  ("America/Los_Angeles",
    "-28378 -28800 -25200d;b2vwcs00 chxltk0 bast80 c7x9g0 bast80 cbmtus0 b1wd180 c1a3c5o
    bf2iic cowao0 b7k800 cb5uo0 b7x6o0 casw00 b7x6o0 casw00 b7x6o0 casw00 b7x6o0 casw00
    b7x6o0 cb5uo0 b7x6o0 casw00 b7x6o0 casw00 b7x6o0 casw00 b7x6o0 casw00 b7x6o0 cb5uo0
    b7k800 cb5uo0 b9d1c0 c9d1c0 b9d1c0 c9d1c0 b9d1c0 c9d1c0 b9q000 c902o0 b9q000 c9d440
    b9cyk0 c9d440 b9cyk0 c9d440 b9cyk0 c9d440 b9cyk0 c9d440 b9px80 c9d440 b9cyk0 c9d440
    b9cyk0 c3lpg0 bf4d80 c64g40 bclmk0 c9d440 b9px80 c905g0 b9px80 c9d440 b9cyk0 c9d440
    b9cyk0 c9d440 b9cyk0 c9d440 b9cyk0 c9d440 b9px80 c905g0 b9px80 c9d440 b9cyk0 c9d440
    b9cyk0 c9d440 b9cyk0 c8a840 bafuk0 c8a840 bast80 c7x9g0 bast80 c7x9g0 bast80 c8a840
    bafuk0 c8a840 bafuk0 c8a840 bast80 c7x9g0 bast80 c7x9g0 bast80 c8a840 bafuk0 c8a840
    bafuk0 c8a840 bafuk0 c8a840 bast80 c7x9g0 bast80 c7x9g0 bast80 c8a840 bafuk0 c8a840
    bafuk0 c8a840 bast80 c7x9g0 bast80 c7x9g0 bast80;2007 c3.2.0/7200 b11.1.0/7200"),
  ("America/Maceio",
    "-8572 -10800 -7200d;b3bm7n24 c99kaxw b9a9c0 c9io40 b99980 c8p65g0 b6zuo0 cbs2o0 b67zw0
    ccjxg0 b69uk0 ccjxg0 b4ml80 c5mf440 b49mk0 chaas0 b316k0 ccls40 b4ml80 ccls40 b66580
    ccls40 b67zw0 c981s40 b6u7w0 cbiw40 b5rbw0 cd0lg0 b5ed80 ccyqs0 b5ed80 cdbpg0 b64ak0
    c2yl440 b64ak0 c1wf1g0 b7k580 cbiw40 bpuk0 cid6s0 b6h980;"),
  ("America/Managua",
    "-20708 -20712 -21600 -18000 -18000d;b2z3cf38 cn7jmo4 dka1i0o cxqqk0 e24p6s0 c53980
    edmtg0 c53980 d60itw0 cdq240 d53es0 c235h80 e4beis0 c8zzw0 eat4c0 c7x140;"),
  ("America/Manaus",
    "-14404 -14400 -10800d;b3bm7rk4 c99k97w b9a9c0 c9io40 b99980 c8p65g0 b6zuo0 cbs2o0 b67zw0
    ccjxg0 b69uk0 ccjxg0 b4ml80 c5mf440 b49mk0 chaas0 b316k0 ccls40 b4ml80 ccls40 b66580
    ccls40 b67zw0 c981s40 b6u7w0 cbiw40 b5rbw0 cd0lg0 b5ed80 c2yy2s0 b6h980;"),
  ("America/Martinique",
    "-14660 -14400 -10800d;b3a80d38 czz5x4s b8zzw0;"),
  ("America/Matamoros",
    "-23400 -21600 -18000d;b3fsj140 cykt480 bast80 c3vppg0 bafuk0 c8a840 bafuk0 c8a840 bafuk0
    c8a840 bast80 c7x9g0 bast80 c9q2s0 b7k580 c9q2s0 bafuk0 c8a840 bafuk0 c8a840 bast80
    c7x9g0 bast80 c7x9g0 bast80 c7x9g0 bast80 c8a840 bafuk0 c8a840 bafuk0;2010 c3.2.0/7200
    b11.1.0/7200"),
  ("America/Mazatlan",
    "-25540 -25200 -21600 -21600d;b3fsj3w0 c2u5s00 b1si580 d8jhg0 b7x3w0 c9eys0 b591h80
    ds5qoc0 bafuk0 d8a840 bafuk0 d8a840 bafuk0 d8a840 bast80 d7x9g0 bast80 d9q2s0 b7k580
    d9q2s0 bafuk0 d8a840 bafuk0 d8a840 bast80 d7x9g0 bast80 d7x9g0 bast80 d7x9g0 bast80
    d8a840 bafuk0 d8a840 bafuk0 d8a840 bast80 d7x9g0 bast80 d7x9g0 bast80 d8a840 bafuk0
    d8a840 bafuk0 d8a840 bafuk0 d8a840 bast80 d7x9g0 bast80 d7x9g0 bast80 d8a840 bafuk0
    d8a840 bafuk0 d8a840 bast80 d7x9g0 bast80;"),
  ("America/Menominee",
    "-21027 -21600 -18000d -18000;b2wutco3 cgz53bx bast80 c7x9g0 bast80 cbmtus0 b1wd180
    casys0 b7x3w0 ca7n9g0 b9px80 d1at9g0 c2396k0 b9d1c0 c3lpg0 bf4d80 c64g40 bclmk0 c9d440
    b9px80 c905g0 b9px80 c9d440 b9cyk0 c9d440 b9cyk0 c9d440 b9cyk0 c9d440 b9cyk0 c9d440
    b9px80 c905g0 b9px80 c9d440 b9cyk0 c9d440 b9cyk0 c9d440 b9cyk0 c8a840 bafuk0 c8a840
    bast80 c7x9g0 bast80 c7x9g0 bast80 c8a840 bafuk0 c8a840 bafuk0 c8a840 bast80 c7x9g0
    bast80 c7x9g0 bast80 c8a840 bafuk0 c8a840 bafuk0 c8a840 bafuk0 c8a840 bast80 c7x9g0
    bast80 c7x9g0 bast80 c8a840 bafuk0 c8a840 bafuk0 c8a840 bast80 c7x9g0 bast80 c7x9g0
    bast80;2007 c3.2.0/7200 b11.1.0/7200"),
  ("America/Merida",
    "-21508 -21600 -18000 -18000d;b3fsj140 cvb0dk0 bfzuk0 d70bes0 bafuk0 d8a840 bafuk0 d8a840
    bafuk0 d8a840 bast80 d7x9g0 bast80 d9q2s0 b7k580 d9q2s0 bafuk0 d8a840 bafuk0 d8a840
    bast80 d7x9g0 bast80 d7x9g0 bast80 d7x9g0 bast80 d8a840 bafuk0 d8a840 bafuk0 d8a840
    bast80 d7x9g0 bast80 d7x9g0 bast80 d8a840 bafuk0 d8a840 bafuk0 d8a840 bafuk0 d8a840
    bast80 d7x9g0 bast80 d7x9g0 bast80 d8a840 bafuk0 d8a840 bafuk0 d8a840 bast80 d7x9g0
    bast80;"),
  ("America/Metlakatla",
    "54822 -31578 -28800 -25200d -32400 -28800d;b2ni5hw1 ch4ytl5 dln70qu c1wd180 dcawis0
    c9cyk0 d9d440 c9cyk0 d9d440 c9px80 d9d440 c9cyk0 d9d440 c9cyk0 d3lpg0 cf4d80 d64g40
    cclmk0 d9d440 c9px80 d905g0 c9px80 d9d440 c9cyk0 d9d440 c9cyk0 d9d440 c9cyk0 d9d440
    c9cyk0 d9d440 c9px80 d905g0 c9px80 egpc840 f6udg0 ec8nw0 f6hes0 ec8nw0 f6hes0 cc8nw0
    e3ylc0;2019 f3.2.0/7200 e11.1.0/7200"),
  ("America/Mexico_City",
    "-23796 -25200 -21600 -21600d -18000d;b3fsj3w0 c2u5s00 b1si580 d8jhg0 b7x3w0 c9eys0
    e3knek0 c776k0 erf440 c5t6k0 e1evk40 c71mk0 e30p1g0 c8n180 enufxo0 cafuk0 e8a840 cafuk0
    e8a840 cafuk0 e8a840 cast80 e7x9g0 cast80 e9q2s0 c7k580 e9q2s0 cafuk0 e8a840 cafuk0
    e8a840 cast80 e7x9g0 cast80 e7x9g0 cast80 e7x9g0 cast80 e8a840 cafuk0 e8a840 cafuk0
    e8a840 cast80 e7x9g0 cast80 e7x9g0 cast80 e8a840 cafuk0 e8a840 cafuk0 e8a840 cafuk0
    e8a840 cast80 e7x9g0 cast80 e7x9g0 cast80 e8a840 cafuk0 e8a840 cafuk0 e8a840 cast80
    e7x9g0 cast80;"),
  ("America/Miquelon",
    "-13480 -14400 -10800 -7200d;b3aabo6g czy4wpk d3m59g0 cafuk0 d8a840 cast80 d7x9g0 cast80
    d7x9g0 cast80 d8a840 cafuk0 d8a840 cafuk0 d8a840 cast80 d7x9g0 cast80 d7x9g0 cast80
    d8a840 cafuk0 d8a840 cafuk0 d8a840 cafuk0 d8a840 cast80 d7x9g0 cast80 d7x9g0 cast80
    d8a840 cafuk0 d8a840 cafuk0 d8a840 cast80 d7x9g0 cast80 d7x9g0 cast80;2007 d3.2.0/7200
    c11.1.0/7200"),
  ("America/Moncton",
    "-15548 -18000 -14400 -10800d;b2vxegfw c9nu9w4 d89fhg0 ca2vw0 d7mqqo0 c4ofw0 de1ms0
    c4ofw0 de1ms0 c4ofw0 de1ms0 c4ofw0 de1ms0 c4ofw0 de1ms0 c4ofw0 ddmtg0 c64ak0 dcao40
    c6fek0 dbkqs0 c7iak0 d6y5k0 c1wd180 dasys0 c7x3w0 dasys0 c7x3w0 dasys0 c7x3w0 dasys0
    c7x3w0 db5xg0 c7k580 db5xg0 c7x3w0 dasys0 c7x3w0 dasys0 c7x3w0 dasys0 c7x3w0 dasys0
    c7x3w0 db5xg0 c7x3w0 dasys0 c9cyk0 d9d440 c9cyk0 d9d440 c9cyk0 d9d440 c9px80 d9d440
    c9cyk0 d9d440 c9cyk0 d9d440 c9cyk0 d9d440 c9cyk0 d9d440 c9px80 d905g0 c9px80 d9d440
    c9cyk0 d9d440 c9cyk0 d9d440 c9cyk0 d9d440 c9cyk0 d9d440 c9px80 d9d440 c9cyk0 ds36s0
    c9cyk0 d9d440 c9cyk0 d9d440 c9px80 d905g0 c9px80 d9d440 c9cyk0 d9d440 c9cyk0 d9d440
    c9cyk0 d9d440 c9cyk0 d9d440 c9px80 d905g0 c9px80 d9d440 c9cyk0 d9d440 c9cyk0 d9d440
    c9cyk0 d8a840 cafuk0 d8a840 cast80 d7x9g0 cast80 d7x9g0 cast80 d8a840 cafuk0 d8a840
    cafuk0 d8a2lo cast80 d7x9g0 cast80 d7x9g0 cast80 d8a840 cafuk0 d8a840 cafuk0 d8a840
    cafuk0 d8a840 cast80 d7x9g0 cast80 d7x9g0 cast80 d8a840 cafuk0 d8a840 cafuk0 d8a840
    cast80 d7x9g0 cast80 d7x9g0 cast80;2007 d3.2.0/7200 c11.1.0/7200"),
  ("America/Monterrey",
    "-24076 -25200 -21600 -21600d -18000d;b3fsj140 c2u5us0 b1si580 d8jhg0 b7x3w0 c9eys0
    et89k40 cast80 e3vppg0 cafuk0 e8a840 cafuk0 e8a840 cafuk0 e8a840 cast80 e7x9g0 cast80
    e9q2s0 c7k580 e9q2s0 cafuk0 e8a840 cafuk0 e8a840 cast80 e7x9g0 cast80 e7x9g0 cast80
    e7x9g0 cast80 e8a840 cafuk0 e8a840 cafuk0 e8a840 cast80 e7x9g0 cast80 e7x9g0 cast80
    e8a840 cafuk0 e8a840 cafuk0 e8a840 cafuk0 e8a840 cast80 e7x9g0 cast80 e7x9g0 cast80
    e8a840 cafuk0 e8a840 cafuk0 e8a840 cast80 e7x9g0 cast80;"),
  ("America/Montevideo",
    "-13491 -14400 -10800d -12600 -9000d -10800 -7200d -5400d;b3ex586r c1s74p9 d9et80 c9exe0
    d9czy0 c9exe0 d9czy0 c3ydyq0 d7x5a0 casxe0 d7x5a0 casxe0 d7x5a0 casxe0 d7x5a0 cb5w20
    d7k6m0 cb5w20 d7k6m0 c9q1e0 d9czy0 casxe0 d7x5a0 c6do20 eppvy0 f4mmm0 e8g9qq0 f901a0
    g38pe0 f2inw0 g2nf9g0 f8zzw0 e1e3s40 f9o3y0 gq8he0 f2kik0 gyxhg0 f4bh80 hs36s0 e2vl60
    f905g0 g5rg20 f51ek0 gweqs0 f3yik0 ge1ms0 f4ofw0 gerk40 f3yik0 g2vs40 fgk7w0 g41iys0
    f3wnw0 gerk40 f4bh80 gc8tg0 f64ak0 gc8tg0 f6u7w0 gc8tg0 f6h980 gbvus0 f6u7w0 g614qs0
    f9q2s0 ga31g0 f7x3w0 gag040 f8a2k0 gasys0 f7x3w0 gasys0 f7x3w0 gasys0 f8a2k0 gag040
    f8a2k0 gag040 f8a2k0 gasys0 f7x3w0 gasys0 f7x3w0 gasys0 f7x3w0;"),
  ("America/New_York",
    "-17762 -18000 -14400d;b2vwcjo0 chxltk0 bast80 c7x9g0 bast80 c7x9g0 bb5rw0 c905g0 b7x3w0
    cb5xg0 b7k580 cb5xg0 b7x3w0 casys0 b7x3w0 casys0 b7x3w0 casys0 b7x3w0 casys0 b7x3w0
    cb5xg0 b7x3w0 casys0 b7x3w0 casys0 b7x3w0 casys0 b7x3w0 casys0 b7x3w0 cb5xg0 b7k580
    cb5xg0 b7x3w0 casys0 b7x3w0 casys0 b7x3w0 casys0 b7x3w0 casys0 b7x3w0 cb5xg0 b7k580
    cb5xg0 b7x3w0 casys0 b7x3w0 c6w840 b1wd180 casys0 b7x3w0 casys0 b7x3w0 casys0 b7x3w0
    casys0 b7x3w0 cb5xg0 b7k580 cb5xg0 b7x3w0 casys0 b7x3w0 casys0 b7x3w0 casys0 b7x3w0
    casys0 b9px80 c9d440 b9cyk0 c9d440 b9cyk0 c9d440 b9cyk0 c9d440 b9cyk0 c9d440 b9px80
    c9d440 b9cyk0 c9d440 b9cyk0 c9d440 b9cyk0 c9d440 b9cyk0 c9d440 b9px80 c905g0 b9px80
    c9d440 b9cyk0 c9d440 b9cyk0 c9d440 b9cyk0 c9d440 b9cyk0 c9d440 b9px80 c9d440 b9cyk0
    c9d440 b9cyk0 c3lpg0 bf4d80 c64g40 bclmk0 c9d440 b9px80 c905g0 b9px80 c9d440 b9cyk0
    c9d440 b9cyk0 c9d440 b9cyk0 c9d440 b9cyk0 c9d440 b9px80 c905g0 b9px80 c9d440 b9cyk0
    c9d440 b9cyk0 c9d440 b9cyk0 c8a840 bafuk0 c8a840 bast80 c7x9g0 bast80 c7x9g0 bast80
    c8a840 bafuk0 c8a840 bafuk0 c8a840 bast80 c7x9g0 bast80 c7x9g0 bast80 c8a840 bafuk0
    c8a840 bafuk0 c8a840 bafuk0 c8a840 bast80 c7x9g0 bast80 c7x9g0 bast80 c8a840 bafuk0
    c8a840 bafuk0 c8a840 bast80 c7x9g0 bast80 c7x9g0 bast80;2007 c3.2.0/7200 b11.1.0/7200"),
  ("America/Nome",
    "46702 -39698 -39600 -36000d -32400 -28800d;b2ni5hw1 ch4yzup dln72ta c1wd180 dcawis0
    c9cyk0 d9d440 c9cyk0 d9d440 c9px80 d9d440 c9cyk0 d9d440 c9cyk0 d3lpg0 cf4d80 d64g40
    cclmk0 d9d440 c9px80 d905g0 c9px80 d9d440 c9cyk0 d9d440 c9cyk0 d9d440 c9cyk0 d9d440
    c9cyk0 d9d440 c9px80 d905g0 e9px80 f9cyk0 e9cyk0 f9d440 e9cyk0 f9d440 e9cyk0 f8a840
    eafuk0 f8a840 east80 f7x9g0 east80 f7x9g0 east80 f8a840 eafuk0 f8a840 eafuk0 f8a840
    east80 f7x9g0 east80 f7x9g0 east80 f8a840 eafuk0 f8a840 eafuk0 f8a840 eafuk0 f8a840
    east80 f7x9g0 east80 f7x9g0 east80 f8a840 eafuk0 f8a840 eafuk0 f8a840 east80 f7x9g0
    east80 f7x9g0 east80;2007 f3.2.0/7200 e11.1.0/7200"),
  ("America/Noronha",
    "-7780 -7200 -3600d;b3bm7mg4 c99k8rw b9a9c0 c9io40 b99980 c8p65g0 b6zuo0 cbs2o0 b67zw0
    ccjxg0 b69uk0 ccjxg0 b4ml80 c5mf440 b49mk0 chaas0 b316k0 ccls40 b4ml80 ccls40 b66580
    ccls40 b67zw0 c981s40 b6u7w0 cbiw40 b5rbw0 cd0lg0 b5ed80 ccyqs0 b5ed80 cdbpg0 b64ak0
    c514g40 b7k580 cbiw40 bcvw0 ciq5g0 b6h980;"),
  ("America/North_Dakota/Beulah",
    "-24427 -25200 -21600d -21600 -18000d;b2vwcp80 chxltk0 bast80 c7x9g0 bast80 cbmtus0
    b1wd180 cb9gdg0 b9cyk0 c9d440 b9cyk0 c9d440 b9cyk0 c9d440 b9cyk0 c9d440 b9px80 c9d440
    b9cyk0 c9d440 b9cyk0 c3lpg0 bf4d80 c64g40 bclmk0 c9d440 b9px80 c905g0 b9px80 c9d440
    b9cyk0 c9d440 b9cyk0 c9d440 b9cyk0 c9d440 b9cyk0 c9d440 b9px80 c905g0 b9px80 c9d440
    b9cyk0 c9d440 b9cyk0 c9d440 b9cyk0 c8a840 bafuk0 c8a840 bast80 c7x9g0 bast80 c7x9g0
    bast80 c8a840 bafuk0 c8a840 bafuk0 c8a840 bast80 c7x9g0 bast80 c7x9g0 bast80 c8a840
    bafuk0 c8a840 bafuk0 c8a840 bafuk0 c8a840 bast80 c7x9g0 bast80 c7x9g0 bast80 c8a840
    bafuk0 c8a840 bafuk0 c8a840 bast80 c7x9g0 bast80 c7x9g0 bast80 c6udg0 bc8nw0 c6hes0
    bc8nw0 c6hes0 bc8nw0 c6udg0 dc8nw0;2011 e3.2.0/7200 d11.1.0/7200"),
  ("America/North_Dakota/Center",
    "-24312 -25200 -21600d -21600 -18000d;b2vwcp80 chxltk0 bast80 c7x9g0 bast80 cbmtus0
    b1wd180 cb9gdg0 b9cyk0 c9d440 b9cyk0 c9d440 b9cyk0 c9d440 b9cyk0 c9d440 b9px80 c9d440
    b9cyk0 c9d440 b9cyk0 c3lpg0 bf4d80 c64g40 bclmk0 c9d440 b9px80 c905g0 b9px80 c9d440
    b9cyk0 c9d440 b9cyk0 c9d440 b9cyk0 c9d440 b9cyk0 c9d440 b9px80 c905g0 b9px80 c9d440
    b9cyk0 c9d440 b9cyk0 c9d440 b9cyk0 c8a840 bafuk0 c8a840 bast80 c7x9g0 bast80 c7x9g0
    bast80 c8a840 bafuk0 c8a840 dafuk0 e8a5c0 dast80 e7x9g0 dast80 e7x9g0 dast80 e8a840
    dafuk0 e8a840 dafuk0 e8a840 dafuk0 e8a840 dast80 e7x9g0 dast80 e7x9g0 dast80 e8a840
    dafuk0 e8a840 dafuk0 e8a840 dast80 e7x9g0 dast80 e7x9g0 dast80;2007 e3.2.0/7200
    d11.1.0/7200"),
  ("America/North_Dakota/New_Salem",
    "-24339 -25200 -21600d -21600 -18000d;b2vwcp80 chxltk0 bast80 c7x9g0 bast80 cbmtus0
    b1wd180 cb9gdg0 b9cyk0 c9d440 b9cyk0 c9d440 b9cyk0 c9d440 b9cyk0 c9d440 b9px80 c9d440
    b9cyk0 c9d440 b9cyk0 c3lpg0 bf4d80 c64g40 bclmk0 c9d440 b9px80 c905g0 b9px80 c9d440
    b9cyk0 c9d440 b9cyk0 c9d440 b9cyk0 c9d440 b9cyk0 c9d440 b9px80 c905g0 b9px80 c9d440
    b9cyk0 c9d440 b9cyk0 c9d440 b9cyk0 c8a840 bafuk0 c8a840 bast80 c7x9g0 bast80 c7x9g0
    bast80 c8a840 bafuk0 c8a840 bafuk0 c8a840 bast80 c7x9g0 bast80 c7x9g0 bast80 c8a840
    bafuk0 c8a840 bafuk0 c8a840 bafuk0 c8a840 bast80 c7x9g0 bast80 c7x9g0 bast80 c8a840
    bafuk0 c8a840 dafuk0 e8a5c0 dast80 e7x9g0 dast80 e7x9g0 dast80;2007 e3.2.0/7200
    d11.1.0/7200"),
  ("America/Nuuk",
    "-12416 -10800 -7200d -7200 -3600d;b3cyim0w cx8nqz4 b8zrk0 c9d1c0 b9d1c0 c9d1c0 b9d1c0
    c9d1c0 b9d1c0 c9d1c0 b9q000 c9d1c0 b9d1c0 c9d1c0 b9d1c0 c9d1c0 b9d1c0 c9d1c0 b9d1c0
    c9d1c0 b9d1c0 c9d1c0 b9q000 c9d1c0 b9d1c0 c9d1c0 b9d1c0 c9d1c0 b9d1c0 c9d1c0 b9d1c0
    c9d1c0 b9d1c0 c9q000 basw00 c7x6o0 basw00 c7x6o0 basw00 c7x6o0 bb5uo0 c7k800 bb5uo0
    c7k800 bb5uo0 c7x6o0 basw00 c7x6o0 basw00 c7x6o0 bb5uo0 c7k800 bb5uo0 c7k800 bb5uo0
    c7k800 bb5uo0 c7x6o0 basw00 c7x6o0 basw00 c7x6o0 bb5uo0 c7k800 bb5uo0 c7k800 bb5uo0
    c7x6o0 basw00 c7x6o0 basw00 c7x6o0 basw00 c7x6o0 bb5uo0 c7k800 bb5uo0 c7k800 bb5uo0
    c7x6o0 basw00 c7x6o0 basw00 c7x6o0 bb5uo0 c7k800 bb5uo0 d7k800;2024 e3.5.0/-3600 d10.5.0/0"),
  ("America/Ojinaga",
    "-25060 -25200 -21600 -21600d -18000d;b3fsj3w0 c2u5s00 b1si580 d8jhg0 b7x3w0 c9eys0
    exes2s0 cafuk0 e8a840 cafuk0 d8aaw0 bafuk0 d8a840 bast80 d7x9g0 bast80 d9q2s0 b7k580
    d9q2s0 bafuk0 d8a840 bafuk0 d8a840 bast80 d7x9g0 bast80 d7x9g0 bast80 d7x9g0 bast80
    d8a840 bafuk0 d8a840 bafuk0 d77c40 bc8nw0 d6hes0 bc8nw0 d6hes0 bc8nw0 d6hes0 bc8nw0
    d6hes0 bc8nw0 d6hes0 bc8nw0 d6udg0 bc8nw0 d6hes0 bc8nw0 d6hes0 bc8nw0 d6hes0 bc8nw0
    d6hes0 bc8nw0 d6udg0 bc8nw0 d6hes0 cbvp80;2023 e3.2.0/7200 c11.1.0/7200"),
  ("America/Panama",
    "-19088 -19176 -18000;b2z3cdu8 c9jvmqg;"),
  ("America/Paramaribo",
    "-13240 -13252 -13236 -12600 -10800;b3a1u3zs ccixc0c d5lydbk ekcrm6c;"),
  ("America/Phoenix",
    "-26898 -25200 -21600d;b2vwcp80 chxltk0 bast80 c7x9g0 bast80 cbmtus0 bzjedo c4olg0 b9et80
    cbs6lmc b9cyk0;"),
  ("America/Port-au-Prince",
    "-17360 -17340 -18000 -14400d;b2z3cci8 ce4gmng dylcf6c c8zzw0 d9d440 c9cyk0 d9d440 c9cyk0
    d9d440 c9cyk0 d9d440 c9cyk0 d8aaw0 casw00 d7x6o0 casw00 d7x6o0 casw00 d8a5c0 cafxc0
    d8a5c0 cafxc0 d8a5c0 casw00 d7x6o0 casw00 d7x6o0 casw00 d8a5c0 cafxc0 d8a5c0 cafxc0
    d3vpjw0 cast80 d7x9g0 cast80 d2stv00 cc8nw0 d6hes0 cc8nw0 d6hes0 cc8nw0 d6hes0
    cc8nw0;2017 d3.2.0/7200 c11.1.0/7200"),
  ("America/Porto_Velho",
    "-15336 -14400 -10800d;b3bm7sa0 c99k8i0 b9a9c0 c9io40 b99980 c8p65g0 b6zuo0 cbs2o0 b67zw0
    ccjxg0 b69uk0 ccjxg0 b4ml80 c5mf440 b49mk0 chaas0 b316k0 ccls40 b4ml80 ccls40 b66580
    ccls40 b67zw0 c981s40 b6u7w0 cbiw40 b5rbw0 cd0lg0 b5ed80;"),
  ("America/Puerto_Rico",
    "-15865 -14400 -10800d;b33wvjcp cmhp1jb b1s3hg0;"),
  ("America/Punta_Arenas",
    "-17020 -16965 -18000 -14400 -14400d -10800d -10800;b2z3cc8s cag6lah b3dlssr d157b79
    bf4e0r e49hzb9 caye0r e7ves0 cawik0 e7ves0 cawik0 e7ves0 cawik0 e7ves0 cayd80 d7ves0
    c534ik0 d351g0 e24lbw0 cb25c0 d2mg00 fb73400 d7k580 fc8tg0 d6h980 fa31g0 d7x3w0 fasys0
    d7x3w0 fb5xg0 d7k580 fag040 d8a2k0 fb5xg0 d7k580 fb5xg0 d7x3w0 fasys0 d7x3w0 fasys0
    d7x3w0 fb5xg0 d7k580 fb5xg0 d7k580 fb5xg0 d7x3w0 fasys0 d7x3w0 fasys0 d7x3w0 fasys0
    d7x3w0 fb5xg0 d7k580 fb5xg0 d7k580 fb5xg0 d9cyk0 f9d440 d7x3w0 fasys0 d7x3w0 fb5xg0
    d7k580 f9q2s0 d8zzw0 fb5xg0 d7x3w0 fasys0 d7x3w0 fasys0 d7x3w0 fasys0 d7x3w0 fb5xg0
    d7k580 fb5xg0 d8n180 fa31g0 d7x3w0 fa31g0 d9px80 f9q2s0 d7x3w0 fb5xg0 d7k580 fb5xg0
    d7k580 fb5xg0 d7k580 fb5xg0 d7x3w0 fasys0 d7x3w0 fasys0 d7x3w0 fb5xg0 d7k580 fb5xg0
    d8n180 fa31g0 d7x3w0 fasys0 d8zzw0 f9q2s0 dast80 f5eis0 dcyl80 f6hes0 dc8nw0 f6udg0
    dbvp80 f6udg0 dvonw0 f4olg0 g5rbw0;"),
  ("America/Rankin_Inlet",
    "0 -21600 -18000d -18000;b3y24n40 c7zza80 b9cyk0 c9d440 b9cyk0 c9d440 b9cyk0 c9d440
    b9cyk0 c9d440 b9px80 c905g0 b9px80 c9d440 b9cyk0 c9d440 b9cyk0 c9d440 b9cyk0 c9d440
    b9cyk0 c9d440 b9px80 c905g0 b9px80 c9d440 b9cyk0 c9d440 b9cyk0 c9d440 b9cyk0 c8a840
    bafuk0 c8a840 bast80 c7x9g0 bast80 c7x9g0 bast80 c8a840 bafuk0 c8a840 bafuk0 c8a840
    bast80 c7x9g0 bast80 c7x9g0 bast80 c8a840 bafuk0 c8a840 bafuk0 c8a840 bafuk0 c8a840
    bast80 c7x9g0 dast80 c7x9g0 bast80 c8a840 bafuk0 c8a840 bafuk0 c8a840 bast80 c7x9g0
    bast80 c7x9g0 bast80;2007 c3.2.0/7200 b11.1.0/7200"),
  ("America/Recife",
    "-8376 -10800 -7200d;b3bm7mwo c99kb3c b9a9c0 c9io40 b99980 c8p65g0 b6zuo0 cbs2o0 b67zw0
    ccjxg0 b69uk0 ccjxg0 b4ml80 c5mf440 b49mk0 chaas0 b316k0 ccls40 b4ml80 ccls40 b66580
    ccls40 b67zw0 c981s40 b6u7w0 cbiw40 b5rbw0 cd0lg0 b5ed80 ccyqs0 b5ed80 cdbpg0 b64ak0
    c514g40 b7k580 cbiw40 bcvw0 ciq5g0 b6h980;"),
  ("America/Regina",
    "-25116 -25200 -21600d -21600;b379myho c6l1hmc ba2vw0 c60enw0 b7x3w0 casys0 b7x3w0 casys0
    b7x3w0 cb5xg0 b7k580 cb5xg0 b7x3w0 c1b6840 b9cyk0 c9d440 b8zzw0 c9q2s0 b9cyk0 c9q2s0
    b9cyk0 c9d440 b9cyk0 c66gc0 b1wd180 ca31g0 b9cyk0 ca31g0 b7x3w0 casys0 b7x3w0 casys0
    b7x3w0 cb5xg0 b7k580 cb5xg0 b7x3w0 casys0 b7x3w0 casys0 b7x3w0 casys0 b7x3w0 casys0
    b7x3w0 cb5xg0 b7x3w0 casys0 b7x3w0 ctj1g0 b9cyk0 d9d440;"),
  ("America/Resolute",
    "0 -21600 -18000d -18000;b3t6nz40 ccvfy80 b9cyk0 c9d440 b9cyk0 c9d440 b9cyk0 c9d440
    b9cyk0 c9d440 b9px80 c905g0 b9px80 c9d440 b9cyk0 c9d440 b9cyk0 c9d440 b9cyk0 c9d440
    b9cyk0 c9d440 b9px80 c905g0 b9px80 c9d440 b9cyk0 c9d440 b9cyk0 c9d440 b9cyk0 c8a840
    bafuk0 c8a840 bast80 c7x9g0 bast80 c7x9g0 bast80 c8a840 bafuk0 c8a840 bafuk0 c8a840
    bast80 c7x9g0 bast80 c7x9g0 bast80 c8a840 bafuk0 c8a840 bafuk0 c8a840 bafuk0 c8a840
    bast80 c7x9g0 dast80 c7x9g0 bast80 c8a840 bafuk0 c8a840 bafuk0 c8a840 bast80 c7x9g0
    bast80 c7x9g0 dast80;2007 c3.2.0/7200 b11.1.0/7200"),
  ("America/Rio_Branco",
    "-16272 -18000 -14400d -14400;b3bm7t00 c99kak0 b9a9c0 c9io40 b99980 c8p65g0 b6zuo0 cbs2o0
    b67zw0 ccjxg0 b69uk0 ccjxg0 b4ml80 c5mf440 b49mk0 chaas0 b316k0 ccls40 b4ml80 ccls40
    b66580 ccls40 b67zw0 c981s40 b6u7w0 cbiw40 b5rbw0 cd0lg0 b5ed80 damves0 b2t2t80;"),
  ("America/Santarem",
    "-13128 -14400 -10800d -10800;b3bm7qko c99ka7c b9a9c0 c9io40 b99980 c8p65g0 b6zuo0 cbs2o0
    b67zw0 ccjxg0 b69uk0 ccjxg0 b4ml80 c5mf440 b49mk0 chaas0 b316k0 ccls40 b4ml80 ccls40
    b66580 ccls40 b67zw0 c981s40 b6u7w0 cbiw40 b5rbw0 cd0lg0 b5ed80 damves0;"),
  ("America/Santiago",
    "-16965 -18000 -14400 -14400d -10800d;b39jixj9 a3dlssr c157b79 af4e0r d49hzb9 baye0r
    d7ves0 bawik0 d7ves0 bawik0 d7ves0 bawik0 d7ves0 bayd80 c7ves0 b534ik0 c351g0 e229zw0
    d2b980 bb2840 c2mg00 eb73400 c7k580 ec8tg0 c6h980 ea31g0 c7x3w0 easys0 c7x3w0 eb5xg0
    c7k580 eag040 c8a2k0 eb5xg0 c7k580 eb5xg0 c7x3w0 easys0 c7x3w0 easys0 c7x3w0 eb5xg0
    c7k580 eb5xg0 c7k580 eb5xg0 c7x3w0 easys0 c7x3w0 easys0 c7x3w0 easys0 c7x3w0 eb5xg0
    c7k580 eb5xg0 c7k580 eb5xg0 c9cyk0 e9d440 c7x3w0 easys0 c7x3w0 eb5xg0 c7k580 e9q2s0
    c8zzw0 eb5xg0 c7x3w0 easys0 c7x3w0 easys0 c7x3w0 easys0 c7x3w0 eb5xg0 c7k580 eb5xg0
    c8n180 ea31g0 c7x3w0 ea31g0 c9px80 e9q2s0 c7x3w0 eb5xg0 c7k580 eb5xg0 c7k580 eb5xg0
    c7k580 eb5xg0 c7x3w0 easys0 c7x3w0 easys0 c7x3w0 eb5xg0 c7k580 eb5xg0 c8n180 ea31g0
    c7x3w0 easys0 c8zzw0 e9q2s0 cast80 e5eis0 ccyl80 e6hes0 cc8nw0 e6udg0 cbvp80 e6udg0
    cvonw0 e4olg0 ce1h80 e4olg0 ce1h80 e4olg0 cc8nw0 e7x9g0 cast80 e7x9g0 cast80 e7x9g0
    cast80 e8a840;2023 e9.1.6/86400 c4.1.6/86400"),
  ("America/Santo_Domingo",
    "-16776 -16800 -18000 -14400d -16200d -14400;b2z3cc20 cmkixco dhiw29c c67zw0 e1dy840
    c62ha0 ecnle0 c4h2m0 eelyq0 c47ta0 eei9e0 c4bim0 eeek20 c4dda0 fecpe0 cdkmtg0 f1stc0;"),
  ("America/Sao_Paulo",
    "-11188 -10800 -7200d;b3bm7p2s c99k8x8 b9a9c0 c9io40 b99980 c8p65g0 b6zuo0 cbs2o0 b67zw0
    ccjxg0 b69uk0 ccjxg0 b4ml80 c5k02s0 b6onw0 chaas0 b316k0 ccls40 b4ml80 ccls40 b66580
    ccls40 b67zw0 c981s40 b6u7w0 cbiw40 b5rbw0 cd0lg0 b5ed80 ccyqs0 b5ed80 cdbpg0 b64ak0
    ccyqs0 b64ak0 ccls40 b5rbw0 cdbpg0 b51ek0 cdbpg0 b6h980 cc8tg0 b6h980 cc8tg0 b64ak0
    cc8tg0 b6u7w0 cbxpg0 b7iak0 cbiw40 b6u7w0 cbiw40 b7k580 cbiw40 b6u7w0 cc8tg0 b6h980
    cdbpg0 b5ed80 ccls40 b64ak0 cdfes0 b5nmk0 cc8tg0 b6h980 cdbpg0 b5rbw0 cbvus0 b6h980
    ccls40 b64ak0 ccls40 b6h980 cc8tg0 b6h980 cc8tg0 b6u7w0 cc8tg0 b64ak0 ccls40 b64ak0
    ccls40 b6h980 cc8tg0 b6h980 cc8tg0 b6h980 cc8tg0 b6h980 cdbpg0 b5ed80;"),
  ("America/Scoresbysund",
    "-5272 -7200 -3600d 0d -3600;b3cyigig cx8ntpk b902o0 d9cvs0 e9cyk0 d9d1c0 e9d1c0 d9d1c0
    e9d1c0 d9d1c0 e9q000 d9d1c0 e9d1c0 d9d1c0 e9d1c0 d9d1c0 e9d1c0 d9d1c0 e9d1c0 d9d1c0
    e9d1c0 d9d1c0 e9q000 d9d1c0 e9d1c0 d9d1c0 e9d1c0 d9d1c0 e9d1c0 d9d1c0 e9d1c0 d9d1c0
    e9d1c0 d9q000 easw00 d7x6o0 easw00 d7x6o0 easw00 d7x6o0 eb5uo0 d7k800 eb5uo0 d7k800
    eb5uo0 d7x6o0 easw00 d7x6o0 easw00 d7x6o0 eb5uo0 d7k800 eb5uo0 d7k800 eb5uo0 d7k800
    eb5uo0 d7x6o0 easw00 d7x6o0 easw00 d7x6o0 eb5uo0 d7k800 eb5uo0 d7k800 eb5uo0 d7x6o0
    easw00 d7x6o0 easw00 d7x6o0 easw00 d7x6o0 eb5uo0 d7k800 eb5uo0 d7k800 eb5uo0 d7x6o0
    easw00 d7x6o0 easw00 d7x6o0 eb5uo0 d7k800 eb5uo0 d7k800 eb5uo0;2024 c3.5.0/-3600 b10.5.0/0"),
  ("America/Sitka",
    "53927 -32473 -28800 -25200d -32400 -28800d;b2ni5hw1 ch4yua0 dln701z c1wd180 dcawis0
    c9cyk0 d9d440 c9cyk0 d9d440 c9px80 d9d440 c9cyk0 d9d440 c9cyk0 d3lpg0 cf4d80 d64g40
    cclmk0 d9d440 c9px80 d905g0 c9px80 d9d440 c9cyk0 d9d440 c9cyk0 d9d440 c9cyk0 d9d440
    c9cyk0 d9d440 c9px80 d905g0 e9px80 f9d6w0 e9cyk0 f9d440 e9cyk0 f9d440 e9cyk0 f8a840
    eafuk0 f8a840 east80 f7x9g0 east80 f7x9g0 east80 f8a840 eafuk0 f8a840 eafuk0 f8a840
    east80 f7x9g0 east80 f7x9g0 east80 f8a840 eafuk0 f8a840 eafuk0 f8a840 eafuk0 f8a840
    east80 f7x9g0 east80 f7x9g0 east80 f8a840 eafuk0 f8a840 eafuk0 f8a840 east80 f7x9g0
    east80 f7x9g0 east80;2007 f3.2.0/7200 e11.1.0/7200"),
  ("America/St_Johns",
    "-12652 -9052d -12600 -9000d -5400d;b3dbl53g a8bx80 bar440 aa2vw0 b9tjs0 a53980 bdkys0
    a9cyk0 b9d440 a9cyk0 b9q2s0 a8zzw0 b9q2s0 a8zzw0 b9q2s0 a8zzw0 b9q2s0 a8zzw0 b9q2s0
    a9cyk0 b9d440 a9cyk0 b9q2s0 a8zzw0 b9q2s0 a8zzw0 b9q2s0 a8zzw0 b9q2s0 a8zzw0 b9q2s0
    a9cyk0 b9q2s0 a8zzw0 b9q2s0 a8zzw0 c7tmw0 d1wfuk c8zzw0 da3480 c7k580 db5xg0 c7k580
    db5xg0 c7k580 dbiw40 c776k0 dbiw40 c7k580 db5xg0 c7k580 db5xg0 c1roo40 dbiw40 c7k580
    db5xg0 c7k580 db5xg0 c7k580 db5xg0 c7k580 dbiw40 c7k580 dag040 c7x3w0 dasys0 c7x3w0
    dasys0 c7x3w0 dasys0 c7x3w0 dasys0 c7x3w0 db5xg0 c7x3w0 dasys0 c7x3w0 dasys0 c7x3w0
    dasys0 c7x3w0 dasys0 c9px80 d9d440 c9cyk0 d9d440 c9cyk0 d9d440 c9cyk0 d9d440 c9cyk0
    d9d440 c9px80 d905g0 c9px80 d9d440 c9cyk0 d9d440 c9cyk0 d9d440 c9cyk0 d9d440 c9cyk0
    d9d440 c9px80 d9d440 c9cyk0 d9d440 c9cyk0 d9d440 c9cyk0 d9d440 c9cyk0 d9d440 c9px80
    d905g0 c9px80 d9d440 c9cyk0 d9d440 c9cyk0 d9d440 c9cyk0 d9d440 c9cyk0 d9d440 c9px80
    d905g0 c9px80 d9d440 c9cyk0 d9d440 c9cyk0 d9d440 c9cyk0 d8a2lo cafuk0 e8a840 casqg0
    d7xc80 cast80 d7x9g0 cast80 d8a840 cafuk0 d8a840 cafuk0 d8a840 cast80 d7x9g0 cast80
    d7x9g0 cast80 d8a840 cafuk0 d8a840 cafuk0 d8a840 cafuk0 d8a840 cast80 d7x9g0 cast80
    d7x9g0 cast80 d8a840 cafuk0 d8a840 cafuk0 d8a840 cast80 d7x9g0 cast80 d7x9g0 cast80
    d6udg0 cc8nw0 d6hes0 cc8nw0 d6hes0 cc8nw0 d6udg0 cc8nw0 d6hes0 cc8tec;2012 d3.2.0/7200
    c11.1.0/7200"),
  ("America/Swift_Current",
    "-25880 -25200 -21600d -21600;b379mz2w c6l1h14 ba2vw0 cc5jxg0 b1wd180 casys0 b8n180
    ca31g0 b7x3w0 casys0 b7x3w0 casys0 b7x3w0 c3yles0 b9cyk0 cs36s0 b9cyk0 c9d440 b7x3w0
    cb5xg0 b7k580 d5j4lg0;"),
  ("America/Tegucigalpa",
    "-20932 -21600 -18000d;b3fedr9g cyho0ik b7k580 cb5xg0 b7k580 c96x1g0 b4qak0;"),
  ("America/Thule",
    "-16508 -14400 -10800d;b3cyip6k c12yzilg b9cyk0 c9d440 b9cyk0 c9q2s0 bast80 c7x9g0 bast80
    c7x9g0 bast80 c8a840 bafuk0 c8a840 bafuk0 c8a840 bafuk0 c8a840 bast80 c7x9g0 bast80
    c7x9g0 bast80 c8a840 bafuk0 c8a840 bafuk0 c8a840 bast80 c7x9g0 bast80 c7x9g0 bast80;2007
    c3.2.0/7200 b11.1.0/7200"),
  ("America/Tijuana",
    "-28084 -25200 -28800 -25200d;b3fsj3w0 c11juo0 b1sm040 c1si580 d71s40 c9cyk0 d5iidg0
    c1ux6k0 d18uw40 celuk0 doa5g0 c7iak0 db6300 c7x3w0 dasys0 c7x3w0 dtiyo0 c7x6o0 dasw00
    c7x6o0 db5uo0 c7x6o0 dasw00 c7x6o0 dasw00 c7x6o0 dasw00 c7x6o0 dasw00 c7x6o0 d84qys0
    c9px80 d905g0 c9px80 d9d440 c9cyk0 d9d440 c9cyk0 d9d440 c9cyk0 d9d440 c9cyk0 d9d440
    c9px80 d905g0 c9px80 d9d440 c9cyk0 d9d440 c9cyk0 d9d440 c9cyk0 d8a840 cafuk0 d8a840
    cast80 d7x9g0 cast80 d7x9g0 cast80 d8a840 cafuk0 d8a840 cafuk0 d8a840 cast80 d7x9g0
    cast80 d7x9g0 cast80 d8a840 cafuk0 d8a840 cafuk0 d8a840 cafuk0 d8a840 cast80 d7x9g0
    cast80 d7x9g0 cast80 d8a840 cafuk0 d8a840 cafuk0 d8a840 cast80 d7x9g0 cast80 d7x9g0
    cast80 d7x9g0 cast80 d8a840 cafuk0 d8a840 cafuk0;2010 d3.2.0/7200 c11.1.0/7200"),
  ("America/Toronto",
    "-19052 -18000 -14400d;b31p9v58 cc5efes ba2vw0 c7yx60 baqzy0 c9q8c0 b7jzo0 cbw0c0 b6bp80
    ccedg0 b6h980 cc8tg0 b6h980 cbvus0 b776k0 cbiw40 b776k0 cbiw40 b776k0 cbiw40 b7k580
    cb5xg0 b7x3w0 casys0 b7x3w0 casys0 b7x3w0 casys0 b7x3w0 cb5xg0 b7k580 cb5xg0 b7x3w0
    casys0 b7x3w0 casys0 b7x3w0 casys0 b7x3w0 casys0 b7x3w0 casys0 b7x3w0 cb5xg0 b7k580
    cb5xg0 b2twfw0 casys0 b7x3w0 casys0 b7x3w0 casys0 b7x3w0 casys0 bb5rw0 c7x9g0 bast80
    c7x9g0 b7x3w0 casys0 b7x3w0 casys0 b7x3w0 casys0 b7x3w0 casys0 b7x3w0 cb5xg0 b7x3w0
    casys0 b9cyk0 c9d440 b9cyk0 c9d440 b9cyk0 c9d440 b9px80 c9d440 b9cyk0 c9d440 b9cyk0
    c9d440 b9cyk0 c9d440 b9cyk0 c9d440 b9px80 c905g0 b9px80 c9d440 b9cyk0 c9d440 b9cyk0
    c9d440 b9cyk0 c9d440 b9cyk0 c9d440 b9px80 c9d440 b9cyk0 c9d440 b9cyk0 c9d440 b9cyk0
    c9d440 b9cyk0 c9d440 b9px80 c905g0 b9px80 c9d440 b9cyk0 c9d440 b9cyk0 c9d440 b9cyk0
    c9d440 b9cyk0 c9d440 b9px80 c905g0 b9px80 c9d440 b9cyk0 c9d440 b9cyk0 c9d440 b9cyk0
    c8a840 bafuk0 c8a840 bast80 c7x9g0 bast80 c7x9g0 bast80 c8a840 bafuk0 c8a840 bafuk0
    c8a840 bast80 c7x9g0 bast80 c7x9g0 bast80 c8a840 bafuk0 c8a840 bafuk0 c8a840 bafuk0
    c8a840 bast80 c7x9g0 bast80 c7x9g0 bast80 c8a840 bafuk0 c8a840 bafuk0 c8a840 bast80
    c7x9g0 bast80 c7x9g0 bast80;2007 c3.2.0/7200 b11.1.0/7200"),
  ("America/Vancouver",
    "-29548 -28800 -25200d;b2vylcks chw36b8 ba2vw0 cc5jxg0 b1wd180 casys0 b7x3w0 casys0
    b7x3w0 casys0 b7x3w0 casys0 b7x3w0 cb5xg0 b7k580 cb5xg0 b7x3w0 casys0 b7x3w0 casys0
    b7x3w0 casys0 b7x3w0 casys0 b7x3w0 cb5xg0 b7x3w0 casys0 b7x3w0 casys0 b7x3w0 casys0
    b7x3w0 casys0 b7x3w0 cb5xg0 b7k580 cb5xg0 b9cyk0 c9d440 b9cyk0 c9d440 b9cyk0 c9d440
    b9px80 c905g0 b9px80 c9d440 b9cyk0 c9d440 b9cyk0 c9d440 b9cyk0 c9d440 b9cyk0 c9d440
    b9px80 c9d440 b9cyk0 c9d440 b9cyk0 c9d440 b9cyk0 c9d440 b9cyk0 c9d440 b9px80 c905g0
    b9px80 c9d440 b9cyk0 c9d440 b9cyk0 c9d440 b9cyk0 c9d440 b9cyk0 c9d440 b9px80 c905g0
    b9px80 c9d440 b9cyk0 c9d440 b9cyk0 c9d440 b9cyk0 c8a840 bafuk0 c8a840 bast80 c7x9g0
    bast80 c7x9g0 bast80 c8a840 bafuk0 c8a840 bafuk0 c8a840 bast80 c7x9g0 bast80 c7x9g0
    bast80 c8a840 bafuk0 c8a840 bafuk0 c8a840 bafuk0 c8a840 bast80 c7x9g0 bast80 c7x9g0
    bast80 c8a840 bafuk0 c8a840 bafuk0 c8a840 bast80 c7x9g0 bast80 c7x9g0 bast80;2007
    c3.2.0/7200 b11.1.0/7200"),
  ("America/Whitehorse",
    "-32412 -32400 -28800d -25200d -28800 -25200;b34n3esc c97l6vo ba2vw0 casys0 b882c0
    cbmiwc0 b1wd180 da7n3w0 b9q000 e64dc0 d7e3pg0 e9cyk0 d9d440 e9cyk0 d9d440 e9px80 d905g0
    e9px80 d9d440 e9cyk0 d9d440 e9cyk0 d9d440 e9cyk0 d8a840 eafuk0 d8a840 east80 d7x9g0
    east80 d7x9g0 east80 d8a840 eafuk0 d8a840 eafuk0 d8a840 east80 d7x9g0 east80 d7x9g0
    east80 d8a840 eafuk0 d8a840 eafuk0 d8a840 eafuk0 d8a840 east80 d7x9g0 east80 d7x9g0
    east80 d8a840 eafuk0 d8a840 eafuk0 d8a840 east80 d7x9g0 east80 d7x9g0 east80 d6udg0
    ec8nw0 d6hes0 ec8nw0 d6hes0 ec8nw0 d6udg0 ec8nw0 d6hes0 ec8nw0 d6hes0 ec8nw0 d6hes0
    ec8nw0 d6hes0 ec8nw0 d6hes0 ec8nw0 d6udg0 ec8nw0 d6hes0 ec8nw0 d6hes0 ec8nw0 d6hes0
    ec8nw0 d6hes0 fc8ic0;"),
  ("America/Winnipeg",
    "-23316 -21600 -18000d;b2xt1t3o cf0j80c b7k580 ctj700 ba2vw0 c9ok840 b6u7w0 c2a5hg0
    b1wd180 cbiw40 b7x3w0 ca31g0 b7x3w0 casys0 b7x3w0 casys0 b7x3w0 cb7s40 b7tek0 cautg0
    b7x3w0 casys0 b7x3w0 casys0 b7x3w0 casys0 b7x3w0 casys0 b7x3w0 cb5xg0 b7x3w0 casys0
    b7x3w0 casys0 b7x3w0 casys0 b9cyk0 c9d440 b7x3w0 c1cm2s0 b7k580 c1cm2s0 b9q000 c9d1c0
    b9d1c0 c9d1c0 b9d1c0 c9d1c0 b9d1c0 c9d1c0 b9d1c0 c9d1c0 b9q000 c9d1c0 b9d1c0 c9d1c0
    b9d1c0 c9d1c0 b9d1c0 c9d1c0 b9d1c0 c9d1c0 b9q000 c902o0 b9q000 c9d1c0 b9d1c0 c9d1c0
    b9d1c0 c9d1c0 b9d1c0 c9d1c0 b9d1c0 c9d1c0 b9q000 c902o0 b9q000 c9d1c0 b9d1c0 c9d1c0
    b9d1c0 c9d1c0 b9d1c0 c8a5c0 bafxc0 c8a5c0 basw00 c7x6o0 basw00 c7x6o0 basw00 c8a5c0
    bafxc0 c8a5c0 bafxc0 c8a5c0 basw00 c7x6o0 basw00 c7x6o0 basw00 c8a5c0 bafxc0 c8a5c0
    bafxc0 c8a5c0 bafxc0 c8a5c0 basw00 c7x6o0 basw00 c7x6o0 basw00 c8a5c0 bafxc0 c8a5c0
    bafxc0 c8a5c0 basw00 c7x6o0 basw00 c7x6o0 bast80;2007 c3.2.0/7200 b11.1.0/7200"),
  ("America/Yakutat",
    "52865 -33535 -32400 -28800d;b2ni5hw1 ch4yv3i dln720h c1wd180 dcawis0 c9cyk0 d9d440
    c9cyk0 d9d440 c9px80 d9d440 c9cyk0 d9d440 c9cyk0 d3lpg0 cf4d80 d64g40 cclmk0 d9d440
    c9px80 d905g0 c9px80 d9d440 c9cyk0 d9d440 c9cyk0 d9d440 c9cyk0 d9d440 c9cyk0 d9d440
    c9px80 d905g0 c9px80 d9d440 c9cyk0 d9d440 c9cyk0 d9d440 c9cyk0 d8a840 cafuk0 d8a840
    cast80 d7x9g0 cast80 d7x9g0 cast80 d8a840 cafuk0 d8a840 cafuk0 d8a840 cast80 d7x9g0
    cast80 d7x9g0 cast80 d8a840 cafuk0 d8a840 cafuk0 d8a840 cafuk0 d8a840 cast80 d7x9g0
    cast80 d7x9g0 cast80 d8a840 cafuk0 d8a840 cafuk0 d8a840 cast80 d7x9g0 cast80 d7x9g0
    cast80;2007 d3.2.0/7200 c11.1.0/7200")]

end Playbook.Zone.Table
