/-!
# The table of locales

The names of the usual locales. A locale is a language and a territory, and has an encoding
that is usual there; a language by itself is that of its main territory. Beside these there
are names in words, old names, and names of variants. The encodings have names of many kinds
as well: those that codecs are known by, and those that locales are written with.

Names are in small letters, with the territory in capitals where that is how the full name
has it. Several names stand in one text, with blanks between them.

## Main definitions

* `territories`, `mainTerritories`, `otherNames`: The names of locales.
* `codecNames`, `encodingNames`: The names of encodings.
-/

namespace Stencil

namespace Locale

/-- Languages with territories, by the encoding that is usual there. -/
def territories : List (String × List String) := [
  ("CP1251", ["be_BY bg_BG"]),
  ("CP1255", ["yi_US"]),
  ("CP1256", ["ur_PK"]),
  ("GB2312", ["zh_SG"]),
  ("GEORGIAN-ACADEMY", ["ka_GE"]),
  ("ISCII-DEV", ["hi_IN"]),
  ("ISO8859-1", [
    "aa_DJ af_ZA br_FR ca_AD ca_ES ca_FR ca_IT cy_GB da_DK de_AT de_BE de_CH de_DE de_IT de_LU",
    "en_AU en_BE en_BW en_CA en_DK en_GB en_HK en_IE en_IN en_NZ en_PH en_SG en_US en_ZA en_ZW",
    "es_AR es_BO es_CL es_CO es_CR es_DO es_EC es_ES es_GT es_HN es_MX es_NI es_PA es_PE es_PR",
    "es_PY es_SV es_US es_UY es_VE eu_ES eu_FR fo_FO fr_BE fr_CA fr_CH fr_FR fr_LU ga_IE gd_GB",
    "gl_ES gv_GB id_ID is_IS it_CH it_IT kl_GL kw_GB mi_NZ ms_MY nb_NO nl_BE nl_NL nn_NO no_NO",
    "nr_ZA ny_NO oc_FR om_KE pd_DE pd_US ph_PH pp_AN pt_BR pt_PT rw_RW so_DJ so_KE so_SO ss_ZA",
    "st_ZA sv_FI sv_SE tl_PH ts_ZA wa_BE xh_ZA zu_ZA"]),
  ("ISO8859-10", ["lg_UG"]),
  ("ISO8859-11", ["th_TH"]),
  ("ISO8859-13", ["lt_LT lv_LV"]),
  ("ISO8859-15", ["an_ES ast_ES et_EE fi_FI mg_MG nso_ZA tn_ZA"]),
  ("ISO8859-2", ["bs_BA cs_CZ hr_HR hsb_DE hu_HU pl_PL ro_RO sh_HR sk_SK sl_CS sl_SI sq_AL"]),
  ("ISO8859-3", ["eo_EO eo_XX mt_MT"]),
  ("ISO8859-4", ["ee_EE"]),
  ("ISO8859-5", ["mk_MK"]),
  ("ISO8859-6", [
    "ar_AA ar_AE ar_BH ar_DZ ar_EG ar_IQ ar_JO ar_KW ar_LB ar_LY ar_MA ar_OM ar_QA ar_SA ar_SD",
    "ar_SY ar_TN ar_YE"]),
  ("ISO8859-7", ["el_CY el_GR"]),
  ("ISO8859-8", ["he_IL"]),
  ("ISO8859-9", ["ku_TR tr_CY tr_TR"]),
  ("ISO8859-9E", ["az_AZ"]),
  ("KOI8-C", ["tg_TJ"]),
  ("KOI8-U", ["ru_UA uk_UA"]),
  ("MULELAO-1", ["lo_LA"]),
  ("NUNACOM-8", ["iu_CA"]),
  ("TATAR-CYR", ["tt_RU"]),
  ("TCVN", ["vi_VN"]),
  ("TSCII-0", ["ta_IN"]),
  ("UTF-8", [
    "aa_ER aa_ET agr_PE ak_GH am_ET anp_IN ar_IN ar_SS as_IN ayc_PE az_IR bem_ZM ber_DZ ber_MA",
    "bho_IN bho_NP bi_VU bn_BD bn_IN bo_CN bo_IN brx_IN byn_ER ce_RU chr_US ckb_IQ cmn_TW",
    "crh_UA csb_PL cv_RU doi_IN dv_MV dz_BT en_AG en_IL en_NG en_ZM es_CU fa_IR ff_SN fil_PH",
    "fur_IT fy_DE fy_NL gez_ER gez_ET gu_IN ha_NG hak_TW hif_FJ hne_IN ht_HT hy_AM ia_FR ig_NG",
    "ik_CA kab_DZ km_KH kn_IN kok_IN ks_IN ky_KG lb_LU li_BE li_NL lij_IT ln_CD lzh_TW mag_IN",
    "mai_IN mai_NP mfe_MU mhr_RU miq_NI mjw_IN ml_IN mn_MN mni_IN mr_IN my_MM nan_TW nds_DE",
    "nds_NL ne_NP nhn_MX niu_NU niu_NZ nl_AW om_ET or_IN os_RU pa_IN pa_PK pap_AN pap_AW pap_CW",
    "ps_AF quz_PE raj_IN ru_RU sa_IN sat_IN sc_IT sd_IN sd_PK se_NO sgs_LT shn_MM shs_CA si_LK",
    "sid_ET sm_WS so_ET sq_MK sr_CS sr_ME sr_RS sw_KE sw_TZ szl_PL ta_LK te_IN the_NP ti_ER",
    "ti_ET tig_ER tk_TM to_TO tpi_PG ug_CN unm_US ur_IN uz_UZ ve_ZA wae_CH wal_ET wo_SN yo_NG",
    "yue_HK yuw_PG"]),
  ("big5", ["zh_TW"]),
  ("big5hkscs", ["zh_HK"]),
  ("eucJP", ["ja_JP"]),
  ("eucKR", ["ko_KR"]),
  ("gb2312", ["zh_CN"]),
  ("ptcp154", ["kk_KZ"])]

/-- The main territories of languages. -/
def mainTerritories : List String := [
  "af_ZA am_ET ar_AA as_IN az_AZ be_BY bg_BG br_FR bs_BA ca_ES cs_CZ cy_GB da_DK de_DE ee_EE",
  "el_GR en_US eo_XX es_ES et_EE eu_ES fa_IR fi_FI fo_FO fr_FR ga_IE gd_GB gl_ES gv_GB he_IL",
  "hi_IN hne_IN hr_HR hu_HU id_ID is_IS it_IT iu_CA ja_JP ka_GE kl_GL kn_IN ko_KR ks_IN kw_GB",
  "ky_KG lo_LA lt_LT lv_LV mai_IN mi_NZ mk_MK ml_IN mr_IN ms_MY mt_MT nb_NO nl_NL nn_NO no_NO",
  "nr_ZA nso_ZA ny_NO oc_FR or_IN pa_IN pd_US ph_PH pl_PL pp_AN pt_PT ro_RO ru_RU rw_RW sd_IN",
  "si_LK sk_SK sl_SI sq_AL sr_RS ss_ZA st_ZA sv_SE ta_IN te_IN tg_TJ th_TH tl_PH tn_ZA tr_TR",
  "ts_ZA tt_RU uk_UA ur_PK uz_UZ ve_ZA vi_VN wa_BE xh_ZA yi_US zu_ZA"]

/-- Full names of locales, with other names that are used for them. -/
def otherNames : List (String × List String) := [
  ("C", ["c c.ascii c.en c_c c_c.c english_united-states.437 posix posix-utf2"]),
  ("ar_AA.ISO8859-6", ["arabic"]),
  ("az_AZ.ISO8859-9E", ["az_az.iso88599e"]),
  ("az_AZ.KOI8-C", ["a3 a3_az a3_az.koic"]),
  ("be_BY.UTF-8@latin", ["be@latin be_by@latin"]),
  ("bg_BG.CP1251", ["bulgarian"]),
  ("bg_BG.UTF-8", ["be_bg.utf8"]),
  ("bhb_IN.UTF-8", ["bhb_in.utf8"]),
  ("ca_ES.ISO8859-1", ["catalan"]),
  ("ca_ES.UTF-8@valencia", ["ca_es@valencia"]),
  ("cs_CZ.ISO8859-2", ["cs_cs cz cz_cz czech"]),
  ("da_DK.ISO8859-1", ["danish dansk"]),
  ("de_CH.ISO8859-1", ["german.iso88591"]),
  ("de_DE.ISO8859-1", ["deutsch ger_de german german_germany"]),
  ("de_LI.UTF-8", ["de_li.utf8"]),
  ("el_GR.ISO8859-15", ["el_gr@euro"]),
  ("el_GR.ISO8859-7", ["greek"]),
  ("en_DL.UTF-8", ["en_dl.utf8"]),
  ("en_EN.ISO8859-1", ["english"]),
  ("en_GB.ISO8859-1", ["en_uk eng_gb english_uk"]),
  ("en_SC.UTF-8", ["en_sc.utf8"]),
  ("en_US.ISO8859-1", [
    "american c.iso88591 cextend english.iso88591 english_united-states english_us iso-8859-1",
    "iso8859-1 iso_8859_1"]),
  ("en_US.ISO8859-15", ["en_us@euro@euro iso-8859-15 iso8859-15 iso_8859_15"]),
  ("en_US.UTF-8", ["c.utf8 universal.utf8@ucs4"]),
  ("en_US.utf", ["univ universal"]),
  ("en_ZS.UTF-8", ["en_zw.utf8"]),
  ("eo.UTF-8", ["eo.utf8"]),
  ("eo_US.UTF-8", ["eo_us.utf8"]),
  ("es_ES.ISO8859-1", ["spanish spanish_spain"]),
  ("et_EE.ISO8859-1", ["eesti estonian"]),
  ("fa_IR.ISIRI-3342", ["fa_ir.isiri3342"]),
  ("fi_FI.ISO8859-1", ["finnish"]),
  ("fr_CA.ISO8859-1", ["c-french"]),
  ("fr_CH.ISO8859-1", ["french.iso88591"]),
  ("fr_FR.ISO8859-1", ["français fre_fr french french_france"]),
  ("gl_ES.ISO8859-1", ["galego galician"]),
  ("he_IL.ISO8859-8", ["hebrew iw iw_il"]),
  ("hi_IN.ISCII-DEV", ["hi_in.isciidev"]),
  ("hr_HR.ISO8859-2", ["croatian hrvatski sh_hr.iso88592"]),
  ("hu_HU.ISO8859-2", ["hungarian"]),
  ("hy_AM.ARMSCII_8", ["hy_am.armscii8"]),
  ("ia.UTF-8", ["ia"]),
  ("id_ID.ISO8859-1", ["in in_id"]),
  ("is_IS.ISO8859-1", ["icelandic"]),
  ("it_IT.ISO8859-1", ["italian"]),
  ("iu_CA.NUNACOM-8", ["iu_ca.nunacom8"]),
  ("iw_IL.UTF-8", ["iw_il.utf8"]),
  ("ja_JP.SJIS", ["ja_jp.mscode ja_jp.pck"]),
  ("ja_JP.eucJP", ["ja_jp.euc japan japanese japanese-euc japanese.euc jp_jp"]),
  ("ka_GE.GEORGIAN-ACADEMY", ["ka_ge.georgianacademy ka_ge.georgianrs"]),
  ("ka_GE.GEORGIAN-PS", ["ka_ge.georgianps"]),
  ("ko_KR.eucKR", ["ko_kr.euc korean korean.euc"]),
  ("ks_IN.UTF-8@devanagari", ["ks_in@devanagari.utf8"]),
  ("lo_LA.IBM-CP1133", ["lo_la.cp1133 lo_la.ibmcp1133"]),
  ("lo_LA.MULELAO-1", ["lo_la.mulelao1"]),
  ("lt_LT.ISO8859-13", ["lithuanian"]),
  ("nb_NO.ISO8859-1", ["bokmal bokmål"]),
  ("nl_BE.ISO8859-1", ["dutch.iso88591"]),
  ("nl_NL.ISO8859-1", ["dutch"]),
  ("nn_NO.ISO8859-1", ["nynorsk"]),
  ("no_NO.ISO8859-1", ["no_no.iso88591@bokmal no_no.iso88591@nynorsk norwegian"]),
  ("ny_NO.ISO8859-1", ["no@nynorsk"]),
  ("pl_PL.ISO8859-2", ["polish"]),
  ("pt_BR.ISO8859-1", ["portuguese_brazil"]),
  ("pt_PT.ISO8859-1", ["portuguese"]),
  ("ro_RO.ISO8859-2", ["romanian rumanian"]),
  ("ru_RU.KOI8-R", ["russian"]),
  ("sd_IN.UTF-8@devanagari", ["sd_in@devanagari.utf8"]),
  ("si_LK.UTF-8", ["sinhala"]),
  ("sk_SK.ISO8859-2", ["slovak"]),
  ("sl_SI.ISO8859-2", ["slovene slovenian"]),
  ("sr_CS.CP1251", ["sr_yu.cp1251@cyrillic sr_yu.microsoftcp1251@cyrillic"]),
  ("sr_CS.ISO8859-2", ["sh_ba.iso88592@bosnia sh_sp sr_cs.iso88592@latn sr_sp sr_yu.iso88592"]),
  ("sr_CS.ISO8859-5", ["sp sp_yu sr_yu.iso88595 sr_yu.iso88595@cyrillic"]),
  ("sr_CS.UTF-8@latin", ["sr@latn sr_cs@latn"]),
  ("sr_RS.UTF-8", ["sr@cyrillic sr_yu.utf8 sr_yu.utf8@cyrillic sr_yu@cyrillic"]),
  ("sr_RS.UTF-8@latin", ["serbocroatian sh sh_yu sr_rs@latn sr_yu"]),
  ("sv_SE.ISO8859-1", ["swedish"]),
  ("ta_IN.TSCII-0", ["ta_in.tscii ta_in.tscii0"]),
  ("tcy_IN.UTF-8", ["tcy_in.utf8"]),
  ("th_TH.ISO8859-11", ["thai"]),
  ("th_TH.TIS620", ["th_th.tactis th_th.tis620"]),
  ("tr_TR.ISO8859-9", ["turkish"]),
  ("tt_RU.TATAR-CYR", ["tt_ru.tatarcyr"]),
  ("tt_RU.UTF-8@iqtelif", ["tt_ru@iqtelif"]),
  ("uz_UZ.UTF-8", ["uz_uz@cyrillic"]),
  ("vi_VN.TCVN", ["vi_vn.tcvn vi_vn.tcvn5712"]),
  ("vi_VN.VISCII", ["vi_vn.viscii vi_vn.viscii111"]),
  ("zh_CN.eucCN", ["chinese-s zh zh_cn.euc"]),
  ("zh_HK.big5hkscs", ["zh_hk.big5hk"]),
  ("zh_SG.GBK", ["zh_sg.gbk"]),
  ("zh_TW.big5", ["zh_cn.big5"]),
  ("zh_TW.eucTW", ["chinese-t zh_tw.euc zh_tw.euctw"])]

/-- Codecs, with other names that are used for them. -/
def codecNames : List (String × List String) := [
  ("ascii", [
    "646 ansi_x3.4_1968 ansi_x3.4_1986 ansi_x3_4_1968 cp367 csascii ibm367 iso646_us",
    "iso_646.irv_1991 iso_ir_6 us us_ascii"]),
  ("base64_codec", ["base64 base_64"]),
  ("big5", ["big5_tw csbig5 x_mac_trad_chinese"]),
  ("big5hkscs", ["big5_hkscs hkscs"]),
  ("bz2_codec", ["bz2"]),
  ("cp037", ["037 csibm037 ebcdic_cp_ca ebcdic_cp_nl ebcdic_cp_us ebcdic_cp_wt ibm037 ibm039"]),
  ("cp1026", ["1026 csibm1026 ibm1026"]),
  ("cp1125", ["1125 cp866u ibm1125 ruscii"]),
  ("cp1140", ["1140 ibm1140"]),
  ("cp1250", ["1250 windows_1250"]),
  ("cp1251", ["1251 windows_1251"]),
  ("cp1252", ["1252 windows_1252"]),
  ("cp1253", ["1253 windows_1253"]),
  ("cp1254", ["1254 windows_1254"]),
  ("cp1255", ["1255 windows_1255"]),
  ("cp1256", ["1256 windows_1256"]),
  ("cp1257", ["1257 windows_1257"]),
  ("cp1258", ["1258 windows_1258"]),
  ("cp273", ["273 csibm273 ibm273"]),
  ("cp424", ["424 csibm424 ebcdic_cp_he ibm424"]),
  ("cp437", ["437 cspc8codepage437 ibm437"]),
  ("cp500", ["500 csibm500 ebcdic_cp_be ebcdic_cp_ch ibm500"]),
  ("cp775", ["775 cspc775baltic ibm775"]),
  ("cp850", ["850 cspc850multilingual ibm850"]),
  ("cp852", ["852 cspcp852 ibm852"]),
  ("cp855", ["855 csibm855 ibm855"]),
  ("cp857", ["857 csibm857 ibm857"]),
  ("cp858", ["858 csibm858 ibm858"]),
  ("cp860", ["860 csibm860 ibm860"]),
  ("cp861", ["861 cp_is csibm861 ibm861"]),
  ("cp862", ["862 cspc862latinhebrew ibm862"]),
  ("cp863", ["863 csibm863 ibm863"]),
  ("cp864", ["864 csibm864 ibm864"]),
  ("cp865", ["865 csibm865 ibm865"]),
  ("cp866", ["866 csibm866 ibm866"]),
  ("cp869", ["869 cp_gr csibm869 ibm869"]),
  ("cp932", ["932 ms932 ms_kanji mskanji"]),
  ("cp949", ["949 ms949 uhc"]),
  ("cp950", ["950 ms950"]),
  ("euc_jis_2004", ["euc_jis2004 eucjis2004 jisx0213"]),
  ("euc_jisx0213", ["eucjisx0213"]),
  ("euc_jp", ["eucjp u_jis ujis"]),
  ("euc_kr", ["euckr korean ks_c_5601 ks_c_5601_1987 ks_x_1001 ksc5601 ksx1001 x_mac_korean"]),
  ("gb18030", ["gb18030_2000"]),
  ("gb2312", [
    "chinese csiso58gb231280 euc_cn euccn eucgb2312_cn gb2312_1980 gb2312_80 iso_ir_58",
    "x_mac_simp_chinese"]),
  ("gbk", ["936 cp936 ms936"]),
  ("hex_codec", ["hex"]),
  ("hp_roman8", ["cp1051 csHPRoman8 ibm1051 r8 roman8"]),
  ("hz", ["hz_gb hz_gb_2312 hzgb"]),
  ("iso2022_jp", ["csiso2022jp iso2022jp iso_2022_jp"]),
  ("iso2022_jp_1", ["iso2022jp_1 iso_2022_jp_1"]),
  ("iso2022_jp_2", ["iso2022jp_2 iso_2022_jp_2"]),
  ("iso2022_jp_2004", ["iso2022jp_2004 iso_2022_jp_2004"]),
  ("iso2022_jp_3", ["iso2022jp_3 iso_2022_jp_3"]),
  ("iso2022_jp_ext", ["iso2022jp_ext iso_2022_jp_ext"]),
  ("iso2022_kr", ["csiso2022kr iso2022kr iso_2022_kr"]),
  ("iso8859_10", ["csisolatin6 iso_8859_10 iso_8859_10_1992 iso_ir_157 l6 latin6"]),
  ("iso8859_11", ["iso_8859_11 iso_8859_11_2001 thai"]),
  ("iso8859_13", ["iso_8859_13 l7 latin7"]),
  ("iso8859_14", ["iso_8859_14 iso_8859_14_1998 iso_celtic iso_ir_199 l8 latin8"]),
  ("iso8859_15", ["iso_8859_15 l9 latin9"]),
  ("iso8859_16", ["iso_8859_16 iso_8859_16_2001 iso_ir_226 l10 latin10"]),
  ("iso8859_2", ["csisolatin2 iso_8859_2 iso_8859_2_1987 iso_ir_101 l2 latin2"]),
  ("iso8859_3", ["csisolatin3 iso_8859_3 iso_8859_3_1988 iso_ir_109 l3 latin3"]),
  ("iso8859_4", ["csisolatin4 iso_8859_4 iso_8859_4_1988 iso_ir_110 l4 latin4"]),
  ("iso8859_5", ["csisolatincyrillic cyrillic iso_8859_5 iso_8859_5_1988 iso_ir_144"]),
  ("iso8859_6", [
    "arabic asmo_708 csisolatinarabic ecma_114 iso_8859_6 iso_8859_6_1987 iso_ir_127"]),
  ("iso8859_7", [
    "csisolatingreek ecma_118 elot_928 greek greek8 iso_8859_7 iso_8859_7_1987 iso_ir_126"]),
  ("iso8859_8", ["csisolatinhebrew hebrew iso_8859_8 iso_8859_8_1988 iso_ir_138"]),
  ("iso8859_9", ["csisolatin5 iso_8859_9 iso_8859_9_1989 iso_ir_148 l5 latin5"]),
  ("johab", ["cp1361 ms1361"]),
  ("koi8_r", ["cskoi8r"]),
  ("kz1048", ["kz_1048 rk1048 strk1048_2002"]),
  ("latin_1", [
    "8859 cp819 csisolatin1 ibm819 iso8859 iso8859_1 iso_8859_1 iso_8859_1_1987 iso_ir_100 l1",
    "latin latin1"]),
  ("mac_cyrillic", ["maccyrillic"]),
  ("mac_greek", ["macgreek"]),
  ("mac_iceland", ["maciceland"]),
  ("mac_latin2", ["mac_centeuro maccentraleurope maclatin2"]),
  ("mac_roman", ["macintosh macroman"]),
  ("mac_turkish", ["macturkish"]),
  ("mbcs", ["ansi dbcs"]),
  ("ptcp154", ["cp154 csptcp154 cyrillic_asian pt154"]),
  ("quopri_codec", ["quopri quoted_printable quotedprintable"]),
  ("rot_13", ["rot13"]),
  ("shift_jis", ["csshiftjis s_jis shiftjis sjis x_mac_japanese"]),
  ("shift_jis_2004", ["s_jis_2004 shiftjis2004 sjis_2004"]),
  ("shift_jisx0213", ["s_jisx0213 shiftjisx0213 sjisx0213"]),
  ("tis_620", ["iso_ir_166 tis620 tis_620_0 tis_620_2529_0 tis_620_2529_1"]),
  ("utf_16", ["u16 utf16"]),
  ("utf_16_be", ["unicodebigunmarked utf_16be"]),
  ("utf_16_le", ["unicodelittleunmarked utf_16le"]),
  ("utf_32", ["u32 utf32"]),
  ("utf_32_be", ["utf_32be"]),
  ("utf_32_le", ["utf_32le"]),
  ("utf_7", ["u7 unicode_1_1_utf_7 utf7"]),
  ("utf_8", ["cp65001 u8 utf utf8 utf8_ucs2 utf8_ucs4"]),
  ("uu_codec", ["uu"]),
  ("zlib_codec", ["zip zlib"])]

/-- Encodings as locales have them, with names of codecs for them. -/
def encodingNames : List (String × List String) := [
  ("C", ["437 c"]),
  ("ISO8859-1", ["88591 ascii en iso88591 iso8859_1 latin1 latin_1"]),
  ("ISO8859-15", ["885915 iso885915 iso8859_15"]),
  ("ISO8859-2", ["88592 iso88592 iso8859_2"]),
  ("ISO8859-5", ["88595 iso88595 iso8859_5"]),
  ("eucJP", ["ajec euc_jp eucjp"]),
  ("CP1251", ["cp1251 microsoftcp1251"]),
  ("CP1255", ["cp1255 microsoftcp1255"]),
  ("CP1256", ["cp1256 microsoftcp1256"]),
  ("eucKR", ["euc_kr euckr"]),
  ("JIS7", ["iso2022_jp iso2022jp jis jis7"]),
  ("ISO8859-10", ["iso885910 iso8859_10"]),
  ("ISO8859-11", ["iso885911 iso8859_11"]),
  ("ISO8859-13", ["iso885913 iso8859_13"]),
  ("ISO8859-14", ["iso885914 iso8859_14"]),
  ("ISO8859-16", ["iso885916 iso8859_16"]),
  ("ISO8859-3", ["iso88593 iso8859_3"]),
  ("ISO8859-4", ["iso88594 iso8859_4"]),
  ("ISO8859-6", ["iso88596 iso8859_6"]),
  ("ISO8859-7", ["iso88597 iso8859_7"]),
  ("ISO8859-8", ["iso88598 iso8859_8"]),
  ("ISO8859-9", ["iso88599 iso8859_9"]),
  ("KOI8-R", ["koi8_r koi8r"]),
  ("KOI8-T", ["koi8_t koi8t"]),
  ("KOI8-U", ["koi8_u koi8u"]),
  ("KOI8-C", ["koi8c"]),
  ("RK1048", ["kz1048"]),
  ("SJIS", ["shift_jis shiftjis"]),
  ("TACTIS", ["tactis"]),
  ("UTF-8", ["utf8 utf_8"])]

end Locale

end Stencil
